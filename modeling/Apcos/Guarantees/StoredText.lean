import Mathlib.Data.Set.Operations
import Apcos.Source.Memory.Encryption

/-!
# Stored text

Every text column of the store is the XOR of its UTF-8 bytes with the repeated key, in
URL-safe base64. Whatever SHA-256 makes of the key material, reading undoes writing,
so no two texts share a column value and a column value that was written is rewritten
as it is.
-/
namespace Apcos.Guarantees.StoredText

open Apcos.Source.Python (Exc)
open Apcos.Source.Memory

/-- Encryption and decryption are inverse on all texts and on the column values written,
and `None` stays `None`. -/
structure RoundTrips (layer : EncryptionLayer) : Prop where
  text : ∀ plaintext : String, layer.decrypt (layer.encrypt plaintext) = .ok plaintext
  absent : layer.decryptOption (layer.encryptOption none) = .ok none
  distinct : ∀ first second : String, first ≠ second →
    layer.encrypt first ≠ layer.encrypt second
  image : ∀ ciphertext ∈ Set.range layer.encrypt,
    ∃ plaintext, layer.decrypt ciphertext = .ok plaintext ∧ layer.encrypt plaintext = ciphertext

theorem encrypt_injective (layer : EncryptionLayer) : Function.Injective layer.encrypt := by
  intro first second same
  have read := layer.decrypt_encrypt first
  rw [same, layer.decrypt_encrypt second] at read
  exact (Except.ok.inj read).symm

theorem encrypt_decrypt (layer : EncryptionLayer) {ciphertext plaintext : String}
    (written : ciphertext ∈ Set.range layer.encrypt)
    (read : layer.decrypt ciphertext = .ok plaintext) : layer.encrypt plaintext = ciphertext := by
  obtain ⟨original, rfl⟩ := written
  rw [layer.decrypt_encrypt original] at read
  rw [Except.ok.inj read]

theorem roundTrips (layer : EncryptionLayer) : RoundTrips layer where
  text := layer.decrypt_encrypt
  absent := layer.decryptOption_encryptOption none
  distinct := fun _ _ different => (encrypt_injective layer).ne different
  image := by
    intro ciphertext written
    obtain ⟨plaintext, written_as⟩ := written
    have read : layer.decrypt ciphertext = .ok plaintext := by
      rw [← written_as, layer.decrypt_encrypt]
    exact ⟨plaintext, read, encrypt_decrypt layer ⟨plaintext, written_as⟩ read⟩

/-- Every layer that key material makes round-trips, and all but the empty makes one. -/
theorem encryption_round_trips (sha256 : Sha256) (keyMaterial : String)
    (given : keyMaterial ≠ "") :
    ∃ layer, EncryptionLayer.create sha256 keyMaterial = .ok layer ∧ RoundTrips layer := by
  unfold EncryptionLayer.create
  rw [if_neg given]
  exact ⟨_, rfl, roundTrips _⟩

/-- The digest of the default key material, and zeros for everything else. -/
def developmentSha256 : Sha256 where
  digest data :=
    if data = "apcos-dev-key".toUTF8.data.toList then
      [232, 31, 39, 178, 24, 119, 69, 229, 159, 22, 234, 233, 118, 179, 224, 109,
        166, 66, 105, 51, 248, 252, 134, 0, 205, 15, 72, 168, 73, 152, 182, 59]
    else List.replicate 32 0
  digest_length data := by split <;> rfl

theorem encryption_round_trips_default :
    ∃ layer, EncryptionLayer.create developmentSha256 "apcos-dev-key" = .ok layer ∧
      RoundTrips layer :=
  encryption_round_trips developmentSha256 "apcos-dev-key" (by decide)

end Apcos.Guarantees.StoredText
