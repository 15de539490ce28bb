import Apcos.Lib.Base64
import Apcos.Source.Python.Text

/-!
# Encryption layer

core/memory/encryption_layer.py. The key is the SHA-256 digest of the key
material, any 32 bytes here; text is XORed with the repeated key and written in
URL-safe base64.
-/
namespace Apcos.Source.Memory

open Apcos.Lib
open Apcos.Source.Python (Exc isAscii)

structure EncryptionLayer where
  key : List UInt8
  key_length : key.length = 32

/-- `hashlib.sha256(...).digest()`: any function to 32 bytes. -/
structure Sha256 where
  digest : List UInt8 → List UInt8
  digest_length : ∀ data, (digest data).length = 32

/-- `EncryptionLayer.__init__`. -/
def EncryptionLayer.create (sha256 : Sha256) (keyMaterial : String) : Except Exc EncryptionLayer :=
  if keyMaterial = "" then .error ⟨.valueError, "key_material must not be empty"⟩
  else
    .ok ⟨sha256.digest keyMaterial.toUTF8.data.toList, sha256.digest_length _⟩

/-- A key of zero bytes. -/
def zeroKey : EncryptionLayer := ⟨List.replicate 32 0, rfl⟩

/-- `bytes(value ^ key[idx % len(key)] for idx, value in enumerate(data))`. -/
def EncryptionLayer.xor (layer : EncryptionLayer) (data : List UInt8) : List UInt8 :=
  data.mapIdx fun idx value => value ^^^ layer.key.getD (idx % layer.key.length) 0

def urlSafe (c : Char) : Char := if c = '+' then '-' else if c = '/' then '_' else c

def standardAlphabet (c : Char) : Char := if c = '-' then '+' else if c = '_' then '/' else c

def EncryptionLayer.encrypt (layer : EncryptionLayer) (plaintext : String) : String :=
  String.ofList ((Base64.encode (layer.xor plaintext.toUTF8.data.toList)).map urlSafe)

def EncryptionLayer.decrypt (layer : EncryptionLayer) (ciphertext : String) : Except Exc String :=
  if !isAscii ciphertext then
    .error ⟨.unicodeError, "'ascii' codec can't encode character"⟩
  else
    match Base64.decode (ciphertext.toList.map standardAlphabet) with
    | none => .error ⟨.binasciiError, "Incorrect padding"⟩
    | some cipher =>
      match String.fromUTF8? ⟨(layer.xor cipher).toArray⟩ with
      | none => .error ⟨.unicodeError, "'utf-8' codec can't decode byte"⟩
      | some plain => .ok plain

/-- `self._encryption.encrypt(value)` on an optional text: `None` stays `None`. -/
def EncryptionLayer.encryptOption (layer : EncryptionLayer) (plaintext : Option String) :
    Option String :=
  plaintext.map layer.encrypt

def EncryptionLayer.decryptOption (layer : EncryptionLayer) :
    Option String → Except Exc (Option String)
  | none => .ok none
  | some ciphertext => (layer.decrypt ciphertext).map some

def hexByte (b : UInt8) : List Char :=
  [Nat.digitChar (b.toNat / 16), Nat.digitChar (b.toNat % 16)]

/-- `hashlib.sha256(material).hexdigest()[:16]`: the key is that digest. -/
def EncryptionLayer.keyDigest (layer : EncryptionLayer) : String :=
  String.ofList ((layer.key.flatMap hexByte).take 16)

theorem EncryptionLayer.xor_xor (layer : EncryptionLayer) (data : List UInt8) :
    layer.xor (layer.xor data) = data := by
  simp only [xor, List.mapIdx_mapIdx]
  apply List.mapIdx_eq_iff.mpr
  intro i
  simp only [Function.comp_def, UInt8.xor_assoc, UInt8.xor_self, UInt8.xor_zero]
  simp

theorem standardAlphabet_urlSafe : ∀ v < 64,
    standardAlphabet (urlSafe (Base64.character v)) = Base64.character v := by decide

theorem urlSafe_ascii : ∀ v < 64, (urlSafe (Base64.character v)).toNat < 128 := by decide

/-- What the store writes, the store reads back. -/
theorem EncryptionLayer.decrypt_encrypt (layer : EncryptionLayer) (plaintext : String) :
    layer.decrypt (layer.encrypt plaintext) = .ok plaintext := by
  have ascii : isAscii (layer.encrypt plaintext) = true := by
    simp only [isAscii, encrypt, String.toList_ofList, List.all_map, List.all_eq_true,
      Function.comp_apply, decide_eq_true_eq]
    intro c member
    rcases Base64.mem_encode _ c member with rfl | ⟨v, bound, rfl⟩
    · decide
    · exact urlSafe_ascii v bound
  have alphabet : (layer.encrypt plaintext).toList.map standardAlphabet =
      Base64.encode (layer.xor plaintext.toUTF8.data.toList) := by
    rw [encrypt, String.toList_ofList, List.map_map]
    refine (List.map_congr_left ?_).trans (List.map_id _)
    intro c member
    rcases Base64.mem_encode _ c member with rfl | ⟨v, bound, rfl⟩
    · decide
    · exact standardAlphabet_urlSafe v bound
  simp only [decrypt, ascii, alphabet, Base64.decode_encode, xor_xor, Array.toArray_toList]
  simp [String.fromUTF8?, String.toUTF8, String.fromUTF8, plaintext.isValidUTF8]

theorem EncryptionLayer.decryptOption_encryptOption (layer : EncryptionLayer)
    (plaintext : Option String) :
    layer.decryptOption (layer.encryptOption plaintext) = .ok plaintext := by
  cases plaintext with
  | none => rfl
  | some text =>
    change (layer.decrypt (layer.encrypt text)).map some = _
    rw [layer.decrypt_encrypt text]
    rfl

end Apcos.Source.Memory
