import Apcos.Lib.Runs
import Apcos.Source.Voice.WakeWord

/-!
# The command behind the wake word

The wake thread and the session take chunks from one buffer. While the wake event is
set the wake thread takes none, but `wait_for_wake` clears the event before the
session has read: in between, the wake thread may take the command chunk, find no
trigger phrase in it and drop it. When it does not, the chunk the session reads is
the command that was pushed behind the wake chunk.
-/
namespace Apcos.Guarantees.WakeCommand

open Apcos.Lib
open Apcos.Source.Python (Runtime asciiRuntime)
open Apcos.Source.Voice

/-- A cycle that consumed the signal of a wake chunk read the command of its pair. -/
def Delivered (s : Listening) : Prop :=
  ∀ cycle ∈ s.cycles, ∀ audio pair command,
    cycle.raised = some ⟨audio, .wake pair command⟩ → cycle.read = ⟨command, .command pair⟩

/-- There is room for what the producer pushes. -/
def NoOverflow (s : Listening) : ListenEvent → Prop
  | .pushWake _ _ => s.stream.buffer.length < s.stream.maxBufferChunks
  | .pushCommand => s.stream.buffer.length < s.stream.maxBufferChunks
  | _ => True

/-- A wake chunk has the trigger phrase; its command is a chunk and has it not. -/
def Proper (engine : WakeWordEngine) (py : Runtime) (s : Listening) : ListenEvent → Prop
  | .pushWake wake command =>
    engine.detectTrigger py wake = true ∧ wake.length ≤ s.stream.chunkSize ∧
      command ≠ [] ∧ command.length ≤ s.stream.chunkSize ∧
      engine.detectTrigger py command = false
  | _ => True

/-- The wake thread takes no chunk between the clear of the signal and the session's
read; at that read the command has been pushed, and whole. -/
def Undisturbed (s : Listening) : ListenEvent → Prop
  | .read _ => s.thread = .reading → ∀ raised, s.session = .woken raised → s.stream.buffer = []
  | .readChunk _ => ∀ audio pair command,
    s.session = .woken (some ⟨audio, .wake pair command⟩) →
      s.stream.buffer ≠ [] ∧ command ≠ [] ∧ command.length ≤ s.stream.chunkSize
  | _ => True

/-! ## Chunks in order -/

/-- Behind a wake chunk its command comes first. -/
def Follows (size : Nat) (raised : Sound) (coming : List Sound) : Prop :=
  ∀ pair command, raised.origin = .wake pair command → command ≠ [] →
    coming.head? = some ⟨command.take size, .command pair⟩

def Paired (size : Nat) : List Sound → Prop
  | [] => True
  | chunk :: rest => Follows size chunk rest ∧ Paired size rest

theorem Follows.append {size : Nat} {raised : Sound} {coming : List Sound}
    (follows : Follows size raised coming) (more : List Sound) :
    Follows size raised (coming ++ more) := by
  intro pair command origin spoken
  have first := follows pair command origin spoken
  obtain ⟨rest, shape⟩ := List.head?_eq_some_iff.mp first
  rw [shape]
  rfl

theorem follows_of_source {size : Nat} {raised : Sound} (origin : raised.origin = .source)
    (coming : List Sound) : Follows size raised coming := by
  intro pair command wake
  rw [origin] at wake
  cases wake

theorem follows_of_command {size pair : Nat} {raised : Sound}
    (origin : raised.origin = .command pair) (coming : List Sound) :
    Follows size raised coming := by
  intro pair command wake
  rw [origin] at wake
  cases wake

theorem paired_append {size : Nat} (first second : List Sound) (before : Paired size first)
    (after : Paired size second) : Paired size (first ++ second) := by
  induction first with
  | nil => exact after
  | cons chunk rest ih => exact ⟨before.1.append second, ih before.2⟩

/-- The command the producer still has to push. -/
def owed (s : Listening) : List Sound :=
  match s.pending with
  | none => []
  | some (pair, command) =>
    if command = [] then [] else [s.stream.cut ⟨command, .command pair⟩]

/-- What the buffer will hand out if no further pair is pushed. -/
def coming (s : Listening) : List Sound := s.stream.buffer ++ owed s

/-- The wake thread or the session acts on the chunk: it raised the event, is examined,
or its signal was consumed. -/
def Heard (s : Listening) (chunk : Sound) : Prop :=
  s.wakeEvent = some chunk ∨ s.thread = .detecting chunk ∨ s.session = .woken (some chunk)

/-- The wake thread is past its test only while the event is clear, the session waits to
clear only while it is set, and behind its back only the source is heard. -/
structure Guided (s : Listening) : Prop where
  running : s.stream.running = true
  paired : Paired s.stream.chunkSize (coming s)
  follows : ∀ chunk, Heard s chunk → Follows s.stream.chunkSize chunk (coming s)
  quiet : s.thread ≠ .polling → s.wakeEvent = none
  held : s.session = .triggered → s.wakeEvent ≠ none
  sourced : ∀ raised, s.session = .woken raised → ∀ chunk,
    s.wakeEvent = some chunk ∨ s.thread = .detecting chunk → chunk.origin = .source
  delivered : Delivered s

/-! ## The stream -/

theorem pushChunk_fits {s : AudioStream} {chunk : Sound} (running : s.running = true)
    (room : s.buffer.length < s.maxBufferChunks) :
    s.pushChunk chunk =
      { s with buffer := s.buffer ++ if chunk.audio = [] then [] else [s.cut chunk] } := by
  split
  · rename_i empty
    rw [AudioStream.pushChunk_of_empty empty, List.append_nil]
  · rename_i given
    exact AudioStream.pushChunk_of_room given running room

/-! ## The producer -/

/-- More chunks, in order among themselves, come behind those of before. -/
theorem Guided.extend {s s' : Listening} (guided : Guided s) (more : List Sound)
    (ordered : Paired s.stream.chunkSize more) (extended : coming s' = coming s ++ more)
    (size : s'.stream.chunkSize = s.stream.chunkSize)
    (running : s'.stream.running = s.stream.running) (event : s'.wakeEvent = s.wakeEvent)
    (thread : s'.thread = s.thread) (session : s'.session = s.session)
    (cycles : s'.cycles = s.cycles) : Guided s' := by
  constructor
  · rw [running]
    exact guided.running
  · rw [size, extended]
    exact paired_append _ _ guided.paired ordered
  · intro chunk heard
    unfold Heard at heard
    rw [event, thread, session] at heard
    rw [size, extended]
    exact (guided.follows chunk heard).append more
  · rw [thread, event]
    exact guided.quiet
  · rw [session, event]
    exact guided.held
  · rw [session, event, thread]
    exact guided.sourced
  · unfold Delivered
    rw [cycles]
    exact guided.delivered

/-- A wake chunk with its command behind it may be pushed while there is room. -/
theorem pushWake_guided (wake command : List UInt8) {s : Listening} (guided : Guided s)
    (room : s.stream.buffer.length < s.stream.maxBufferChunks) :
    Guided (s.pushWake wake command) := by
  unfold Listening.pushWake
  split
  · exact guided
  · rename_i free
    rw [pushChunk_fits guided.running room]
    by_cases silent : wake = []
    · refine guided.extend (if command = [] then [] else
        [s.stream.cut ⟨command, .command s.pairs⟩]) ?_ ?_ rfl rfl rfl rfl rfl rfl
      · split
        · trivial
        · exact ⟨follows_of_command rfl [], trivial⟩
      · simp only [coming, free, owed, silent, if_true, List.append_nil]
    · refine guided.extend (s.stream.cut ⟨wake, .wake s.pairs command⟩ ::
        if command = [] then [] else [s.stream.cut ⟨command, .command s.pairs⟩])
        ⟨?_, ?_⟩ ?_ rfl rfl rfl rfl rfl rfl
      · intro pair spoken origin said
        injection origin with samePair same
        subst same
        subst samePair
        rw [if_neg said]
        rfl
      · split
        · trivial
        · exact ⟨follows_of_command rfl [], trivial⟩
      · simp only [coming, free, owed, silent, if_false, List.append_nil, List.append_assoc]
        rfl

theorem pushCommand_guided {s : Listening} (guided : Guided s)
    (room : s.stream.buffer.length < s.stream.maxBufferChunks) : Guided s.pushCommand := by
  unfold Listening.pushCommand
  split
  · exact guided
  · rename_i pair command next
    rw [pushChunk_fits guided.running room]
    refine guided.extend [] trivial ?_ rfl rfl rfl rfl rfl rfl
    simp only [coming, owed, next, List.append_nil]

/-! ## The wake thread -/

/-- The wake thread reads the next chunk only while the event is clear. -/
theorem poll_guided {s : Listening} (guided : Guided s) : Guided s.poll := by
  unfold Listening.poll
  split
  · rename_i polling clear
    constructor
    · exact guided.running
    · exact guided.paired
    · intro chunk heard
      refine guided.follows chunk ?_
      rcases heard with event | detecting | woken
      · exact Or.inl event
      · cases detecting
      · exact Or.inr (Or.inr woken)
    · exact fun _ => clear
    · exact guided.held
    · intro raised woken chunk heard
      refine guided.sourced raised woken chunk (heard.imp id ?_)
      intro detecting
      cases detecting
    · exact guided.delivered
  · exact guided

/-- The chunk taken is the first of those to come, or comes from the source. -/
theorem read_guided (sourced : List UInt8) {s : Listening} (guided : Guided s)
    (undisturbed : Undisturbed s (.read sourced)) : Guided (s.read sourced) := by
  unfold Listening.read
  split
  · rename_i reading
    have clear : s.wakeEvent = none := guided.quiet (by simp [reading])
    cases buffered : s.stream.buffer with
    | nil =>
      rw [AudioStream.readChunk_empty guided.running buffered]
      constructor
      · exact guided.running
      · exact guided.paired
      · intro chunk heard
        rcases heard with event | detecting | woken
        · exact guided.follows chunk (Or.inl event)
        · injection detecting with same
          exact follows_of_source (by rw [← same]; rfl) _
        · exact guided.follows chunk (Or.inr (Or.inr woken))
      · exact fun _ => clear
      · exact guided.held
      · intro raised woken chunk heard
        rcases heard with event | detecting
        · exact guided.sourced raised woken chunk (Or.inl event)
        · injection detecting with same
          rw [← same]
          rfl
      · exact guided.delivered
    | cons chunk rest =>
      have notWoken : ∀ raised, s.session ≠ .woken raised := by
        intro raised woken
        have empty := undisturbed reading raised woken
        rw [buffered] at empty
        cases empty
      have inOrder : Paired s.stream.chunkSize (chunk :: (rest ++ owed s)) := by
        have paired := guided.paired
        rw [coming, buffered] at paired
        exact paired
      rw [AudioStream.readChunk_cons guided.running buffered]
      constructor
      · exact guided.running
      · exact inOrder.2
      · intro heardChunk heard
        rcases heard with event | detecting | woken
        · exact absurd (clear.symm.trans event) (by simp)
        · injection detecting with same
          rw [← same]
          exact inOrder.1
        · exact absurd woken (notWoken _)
      · exact fun _ => clear
      · exact guided.held
      · exact fun raised woken => absurd woken (notWoken raised)
      · exact guided.delivered
  · exact guided

/-- A chunk that is examined raises the event or is dropped. -/
theorem detect_guided (engine : WakeWordEngine) (py : Runtime) {s : Listening}
    (guided : Guided s) : Guided (s.detect engine py) := by
  unfold Listening.detect
  split
  · rename_i chunk detecting
    have clear : s.wakeEvent = none := guided.quiet (by simp [detecting])
    have notTriggered : s.session ≠ .triggered := fun triggered => guided.held triggered clear
    split
    · constructor
      · exact guided.running
      · exact guided.paired
      · intro heardChunk heard
        rcases heard with event | polling | woken
        · exact guided.follows heardChunk (Or.inr (Or.inl (by
            injection event with same
            rw [detecting, same])))
        · cases polling
        · exact guided.follows heardChunk (Or.inr (Or.inr woken))
      · exact fun notPolling => absurd rfl notPolling
      · exact fun triggered => absurd triggered notTriggered
      · intro raised woken heardChunk heard
        refine guided.sourced raised woken heardChunk (Or.inr ?_)
        rcases heard with event | polling
        · injection event with same
          rw [detecting, same]
        · cases polling
      · exact guided.delivered
    · constructor
      · exact guided.running
      · exact guided.paired
      · intro heardChunk heard
        refine guided.follows heardChunk ?_
        rcases heard with event | polling | woken
        · exact Or.inl event
        · cases polling
        · exact Or.inr (Or.inr woken)
      · exact fun notPolling => absurd rfl notPolling
      · exact guided.held
      · intro raised woken heardChunk heard
        refine guided.sourced raised woken heardChunk (heard.imp id ?_)
        intro polling
        cases polling
      · exact guided.delivered
  · exact guided

/-! ## The session -/

/-- The session waits for the event. -/
theorem wait_guided {s : Listening} (guided : Guided s) : Guided s.wait := by
  unfold Listening.wait
  split
  · rename_i raised idle set
    constructor
    · exact guided.running
    · exact guided.paired
    · intro chunk heard
      refine guided.follows chunk ?_
      rcases heard with event | detecting | woken
      · exact Or.inl event
      · exact Or.inr (Or.inl detecting)
      · cases woken
    · exact guided.quiet
    · exact fun _ => by simp [set]
    · intro raised woken
      cases woken
    · exact guided.delivered
  · exact guided

/-- The session clears the event that it has seen. -/
theorem clear_guided {s : Listening} (guided : Guided s) : Guided s.clear := by
  unfold Listening.clear
  split
  · rename_i triggered
    have polling : s.thread = .polling := by
      by_contra busy
      exact guided.held triggered (guided.quiet busy)
    constructor
    · exact guided.running
    · exact guided.paired
    · intro chunk heard
      refine guided.follows chunk ?_
      rcases heard with event | detecting | woken
      · cases event
      · exact Or.inr (Or.inl detecting)
      · injection woken with consumed
        exact Or.inl consumed
    · exact fun _ => rfl
    · intro triggered
      cases triggered
    · intro raised _ chunk heard
      rcases heard with event | detecting
      · cases event
      · rw [polling] at detecting
        cases detecting
    · exact guided.delivered
  · exact guided

/-- What is heard behind the back of the session comes from the source, so the chunks to
come are in order whatever the session takes. -/
theorem Guided.finish {s : Listening} (guided : Guided s) {raised : Option Sound}
    (woken : s.session = .woken raised) {stream : AudioStream} {read : Sound}
    (running : stream.running = true) (ordered : Paired stream.chunkSize (coming { s with stream }))
    (told : ∀ audio pair command, raised = some ⟨audio, .wake pair command⟩ →
      read = ⟨command, .command pair⟩) :
    Guided { s with stream, session := .idle, cycles := s.cycles ++ [⟨raised, read⟩] } where
  running := running
  paired := ordered
  follows := by
    intro chunk heard
    have notWake := guided.sourced raised woken chunk
    rcases heard with event | detecting | idle
    · exact follows_of_source (notWake (Or.inl event)) _
    · exact follows_of_source (notWake (Or.inr detecting)) _
    · cases idle
  quiet := guided.quiet
  held := by
    intro idle
    cases idle
  sourced := by
    intro other idle
    cases idle
  delivered := by
    intro cycle member audio pair command consumed
    rcases List.mem_append.mp member with old | new
    · exact guided.delivered cycle old audio pair command consumed
    · rw [List.mem_singleton.mp new] at consumed ⊢
      exact told audio pair command consumed

/-- What the session takes is the command. -/
theorem readChunk_guided (sourced : List UInt8) {s : Listening} (guided : Guided s)
    (undisturbed : Undisturbed s (.readChunk sourced)) : Guided (s.readChunk sourced) := by
  unfold Listening.readChunk
  split
  · rename_i raised woken
    cases buffered : s.stream.buffer with
    | nil =>
      rw [AudioStream.readChunk_empty guided.running buffered]
      refine guided.finish woken guided.running guided.paired ?_
      intro audio pair command consumed
      rw [consumed] at woken
      exact absurd buffered (undisturbed audio pair command woken).1
    | cons chunk rest =>
      have inOrder : Paired s.stream.chunkSize (chunk :: (rest ++ owed s)) := by
        have paired := guided.paired
        rw [coming, buffered] at paired
        exact paired
      rw [AudioStream.readChunk_cons guided.running buffered]
      refine guided.finish woken guided.running inOrder.2 ?_
      intro audio pair command consumed
      rw [consumed] at woken
      obtain ⟨-, spoken, whole⟩ := undisturbed audio pair command woken
      have first := guided.follows _ (Or.inr (Or.inr woken)) pair command rfl spoken
      rw [coming, buffered, List.take_of_length_le whole] at first
      exact Option.some.inj first
  · exact guided

/-! ## Runs -/

theorem step_guided (engine : WakeWordEngine) (py : Runtime) (s : Listening) (e : ListenEvent)
    (guided : Guided s) (met : NoOverflow s e ∧ Undisturbed s e) :
    Guided (s.step engine py e) := by
  obtain ⟨room, undisturbed⟩ := met
  cases e with
  | pushWake wake command => exact pushWake_guided wake command guided room
  | pushCommand => exact pushCommand_guided guided room
  | poll => exact poll_guided guided
  | read sourced => exact read_guided sourced guided undisturbed
  | detect => exact detect_guided engine py guided
  | wait => exact wait_guided guided
  | clear => exact clear_guided guided
  | readChunk sourced => exact readChunk_guided sourced guided undisturbed

/-- A new listener has heard nothing. -/
theorem create_guided {stream : AudioStream} (empty : stream.buffer = []) :
    Guided (.create stream) := by
  have none_coming : coming (.create stream) = [] := by
    simp [coming, owed, Listening.create, AudioStream.start, empty]
  constructor
  · rfl
  · rw [none_coming]
    trivial
  · intro chunk heard
    rcases heard with event | detecting | woken
    · cases event
    · cases detecting
    · cases woken
  · exact fun _ => rfl
  · intro triggered
    cases triggered
  · intro raised woken
    cases woken
  · intro cycle member
    cases member

/-- In every interleaving in which the buffer never overflows and no cycle is disturbed
between its clear and its read, every cycle reads the command of the pair whose wake
chunk raised the signal it consumed. -/
theorem undisturbed_delivered (engine : WakeWordEngine) (py : Runtime)
    (chunkSize maxBufferChunks : Nat) (sized : 1 ≤ chunkSize) (bounded : 1 ≤ maxBufferChunks)
    (events : List ListenEvent)
    (room : Along (Listening.step engine py) NoOverflow
      (.create (.create chunkSize maxBufferChunks sized bounded)) events)
    (undisturbed : Along (Listening.step engine py) Undisturbed
      (.create (.create chunkSize maxBufferChunks sized bounded)) events) :
    ∀ before after, events = before ++ after →
      Delivered (run (Listening.step engine py)
        (.create (.create chunkSize maxBufferChunks sized bounded)) before) := by
  intro before after split
  subst split
  have met := along_and _ before (along_append _ before after room)
    (along_append _ before after undisturbed)
  exact (run_invariant_along (step_guided engine py) _ (create_guided rfl) before met).delivered

/-! A pair is pushed; the wake thread hears the wake chunk. -/

def hello : WakeWordEngine := ⟨"hi", by decide⟩

/-- The session reads before the wake thread polls again. -/
def promptSession : List ListenEvent :=
  [.pushWake [104, 105] [103, 111], .pushCommand, .poll, .read [], .detect, .wait, .clear,
    .readChunk []]

/-- The wake thread polls and reads once more before the session reads. -/
def promptThread : List ListenEvent :=
  [.pushWake [104, 105] [103, 111], .pushCommand, .poll, .read [], .detect, .wait, .clear,
    .poll, .read [], .detect, .readChunk []]

theorem promptSession_room : Along (Listening.step hello asciiRuntime) NoOverflow
    (.create (.create 4 2 (by decide) (by decide))) promptSession := by
  refine ⟨?_, ?_, trivial, trivial, trivial, trivial, trivial, trivial, trivial⟩
  · change 0 < 2
    decide
  · change 1 < 2
    decide

theorem promptSession_undisturbed : Along (Listening.step hello asciiRuntime) Undisturbed
    (.create (.create 4 2 (by decide) (by decide))) promptSession := by
  refine ⟨trivial, trivial, trivial, ?_, trivial, trivial, trivial, ?_, trivial⟩
  · intro reading raised idle
    cases idle
  · intro audio pair command woken
    have point : (run (Listening.step hello asciiRuntime)
        (.create (.create 4 2 (by decide) (by decide))) promptSession.dropLast).session =
          .woken (some ⟨[104, 105], .wake 0 [103, 111]⟩) := by
      decide
    cases woken.symm.trans point
    refine ⟨?_, by decide, by decide⟩
    change [(⟨[103, 111], .command 0⟩ : Sound)] ≠ []
    decide

theorem undisturbed_delivered_prompt_session :
    (run (Listening.step hello asciiRuntime) (.create (.create 4 2 (by decide) (by decide)))
        promptSession).cycles =
      [⟨some ⟨[104, 105], .wake 0 [103, 111]⟩, ⟨[103, 111], .command 0⟩⟩] ∧
    Delivered (run (Listening.step hello asciiRuntime)
      (.create (.create 4 2 (by decide) (by decide))) promptSession) :=
  ⟨by decide, undisturbed_delivered hello asciiRuntime 4 2 (by decide) (by decide) promptSession
    promptSession_room promptSession_undisturbed promptSession [] (List.append_nil _).symm⟩

theorem promptThread_room : Along (Listening.step hello asciiRuntime) NoOverflow
    (.create (.create 4 2 (by decide) (by decide))) promptThread := by
  refine ⟨?_, ?_, trivial, trivial, trivial, trivial, trivial, trivial, trivial, trivial, trivial,
    trivial⟩
  · change 0 < 2
    decide
  · change 1 < 2
    decide

theorem promptThread_proper : Along (Listening.step hello asciiRuntime)
    (Proper hello asciiRuntime) (.create (.create 4 2 (by decide) (by decide))) promptThread := by
  refine ⟨⟨by decide, by decide, by decide, by decide, by decide⟩, trivial, trivial, trivial,
    trivial, trivial, trivial, trivial, trivial, trivial, trivial, trivial⟩

/-- The wake thread takes the command, and the session reads nothing. -/
theorem prompt_thread_not_delivered :
    ¬∀ (engine : WakeWordEngine) (py : Runtime) (chunkSize maxBufferChunks : Nat)
      (sized : 1 ≤ chunkSize) (bounded : 1 ≤ maxBufferChunks) (events : List ListenEvent),
      Along (Listening.step engine py) NoOverflow
        (.create (.create chunkSize maxBufferChunks sized bounded)) events →
      Along (Listening.step engine py) (Proper engine py)
        (.create (.create chunkSize maxBufferChunks sized bounded)) events →
      Delivered (run (Listening.step engine py)
        (.create (.create chunkSize maxBufferChunks sized bounded)) events) := by
  intro always
  have delivered := always hello asciiRuntime 4 2 (by decide) (by decide) promptThread
    promptThread_room promptThread_proper
  have read := delivered ⟨some ⟨[104, 105], .wake 0 [103, 111]⟩, ⟨[], .source⟩⟩ (by decide)
    [104, 105] 0 [103, 111] rfl
  cases read

end Apcos.Guarantees.WakeCommand
