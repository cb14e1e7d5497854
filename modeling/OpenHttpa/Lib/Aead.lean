import Mathlib.Data.Option.Basic

/-!
# Authenticated encryption

An authenticated cipher over arbitrary types, and what it means for it to be ideal: it opens
what it sealed, it opens nothing else, and one ciphertext is never the sealing of two different
inputs. The consequence used throughout is that a ciphertext that opens at all opens under one
key, nonce and associated data only, to one plaintext.
-/
namespace OpenHttpa

/-- A cipher with associated data; sealing may be refused. -/
structure Aead (Key Nonce Data Plain Cipher : Type*) where
  encrypt : Key → Nonce → Data → Plain → Option Cipher
  decrypt : Key → Nonce → Data → Cipher → Option Plain

namespace Aead

variable {Key Nonce Data Plain Cipher : Type*}

/-- The ideal cipher: decryption inverts encryption, succeeds on nothing else, and a ciphertext
determines everything it was made from. -/
structure Ideal (aead : Aead Key Nonce Data Plain Cipher) : Prop where
  opens : ∀ key nonce aad plain cipher,
    aead.encrypt key nonce aad plain = some cipher → aead.decrypt key nonce aad cipher = some plain
  authentic : ∀ key nonce aad plain cipher,
    aead.decrypt key nonce aad cipher = some plain → aead.encrypt key nonce aad plain = some cipher
  committing : ∀ key nonce aad plain key' nonce' aad' plain' cipher,
    aead.encrypt key nonce aad plain = some cipher →
    aead.encrypt key' nonce' aad' plain' = some cipher →
      key = key' ∧ nonce = nonce' ∧ aad = aad' ∧ plain = plain'

variable {aead : Aead Key Nonce Data Plain Cipher} {cipher : Cipher} {key key' : Key}
  {nonce nonce' : Nonce} {aad aad' : Data} {plain plain' : Plain}

theorem Ideal.decrypt_unique (ideal : aead.Ideal)
    (first : aead.decrypt key nonce aad cipher = some plain)
    (second : aead.decrypt key' nonce' aad' cipher = some plain') :
    key = key' ∧ nonce = nonce' ∧ aad = aad' ∧ plain = plain' :=
  ideal.committing _ _ _ _ _ _ _ _ _ (ideal.authentic _ _ _ _ _ first)
    (ideal.authentic _ _ _ _ _ second)

def OpensAt (aead : Aead Key Nonce Data Plain Cipher) (nonce : Nonce) (cipher : Cipher) : Prop :=
  ∃ key aad plain, aead.decrypt key nonce aad cipher = some plain

theorem Ideal.opensAt_unique (ideal : aead.Ideal)
    {first second : Nonce} (opens : aead.OpensAt first cipher)
    (again : aead.OpensAt second cipher) : first = second := by
  obtain ⟨key, aad, plain, opened⟩ := opens
  obtain ⟨key', aad', plain', reopened⟩ := again
  exact (ideal.decrypt_unique opened reopened).2.1

theorem Ideal.decrypt_iff (ideal : aead.Ideal)
    (sealed : aead.encrypt key nonce aad plain = some cipher) :
    aead.decrypt key' nonce' aad' cipher = some plain' ↔
      key' = key ∧ nonce' = nonce ∧ aad' = aad ∧ plain' = plain := by
  constructor
  · intro opened
    exact ideal.decrypt_unique opened (ideal.opens _ _ _ _ _ sealed)
  · rintro ⟨rfl, rfl, rfl, rfl⟩
    exact ideal.opens _ _ _ _ _ sealed

/-- A header is read back from anything that begins with it. -/
def Delimits {α : Type*} (header : Key → Nonce → Data → List α) : Prop :=
  ∀ key nonce aad tail key' nonce' aad' tail',
    header key nonce aad ++ tail = header key' nonce' aad' ++ tail' →
      key = key' ∧ nonce = nonce' ∧ aad = aad' ∧ tail = tail'

def transparent {α : Type*} [DecidableEq α] (header : Key → Nonce → Data → List α) :
    Aead Key Nonce Data (List α) (List α) where
  encrypt key nonce aad plain := some (header key nonce aad ++ plain)
  decrypt key nonce aad cipher :=
    if header key nonce aad = cipher.take (header key nonce aad).length then
      some (cipher.drop (header key nonce aad).length)
    else none

theorem transparent_ideal {α : Type*} [DecidableEq α] {header : Key → Nonce → Data → List α}
    (delimits : Delimits header) : (transparent header).Ideal where
  opens key nonce aad plain cipher sealed := by
    obtain rfl : header key nonce aad ++ plain = cipher := by simpa [transparent] using sealed
    simp [transparent]
  authentic key nonce aad plain cipher opened := by
    simp only [transparent, Option.ite_none_right_eq_some, Option.some.injEq] at opened
    obtain ⟨front, rfl⟩ := opened
    have joined := List.take_append_drop (header key nonce aad).length cipher
    rw [← front] at joined
    simp only [transparent, joined]
  committing key nonce aad plain key' nonce' aad' plain' cipher first second := by
    simp only [transparent, Option.some.injEq] at first second
    exact delimits _ _ _ _ _ _ _ _ (first.trans second.symm)

end Aead

end OpenHttpa
