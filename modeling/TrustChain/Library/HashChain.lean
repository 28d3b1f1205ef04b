import Mathlib.Data.List.Basic
import Mathlib.Logic.Function.Basic

/-!
# Hash chains

Every entry of a chain carries a keyed hash of its content and of the hash before it. Who has the
key makes links, each of which is an entry and the hash that it was chained to; who has not can
only store hashes that were made before, or strings that are no hash at all.
-/

namespace TrustChain.Library.HashChain

variable {δ γ : Type*}

/-- An entry of a chain, with the hash that is stored with it. -/
structure Entry (δ γ : Type*) where
  content : γ
  entryHash : δ
deriving DecidableEq

/-- The hash that the next entry is chained to. -/
def last : δ → List (Entry δ γ) → δ
  | previous, [] => previous
  | _, entry :: rest => last entry.entryHash rest

/-- The entries, each with the hash that is stored before it. -/
def links : δ → List (Entry δ γ) → List (δ × Entry δ γ)
  | _, [] => []
  | previous, entry :: rest => (previous, entry) :: links entry.entryHash rest

/-- A link whose entry carries the hash of its content and of the hash before it. -/
def Hashed (hash : δ → γ → δ) (link : δ × Entry δ γ) : Prop :=
  link.2.entryHash = hash link.1 link.2.content

/-- A chain whose links are all hashed. -/
def Verifies (hash : δ → γ → δ) (previous : δ) (entries : List (Entry δ γ)) : Prop :=
  ∀ link ∈ links previous entries, Hashed hash link

/-- Chain contents anew. -/
def rehash (hash : δ → γ → δ) : δ → List (Entry δ γ) → List (Entry δ γ)
  | _, [] => []
  | previous, entry :: rest =>
      let fresh := hash previous entry.content
      ⟨entry.content, fresh⟩ :: rehash hash fresh rest

/-- A chain whose links have all been made before. -/
def Made (transcript : List (δ × Entry δ γ)) (previous : δ) (entries : List (Entry δ γ)) : Prop :=
  links previous entries ⊆ transcript

/-- What can be stored without the key: a hash that has been made, or a string that is no hash. -/
def Keyless (hash : δ → γ → δ) (transcript : List (δ × Entry δ γ)) (entries : List (Entry δ γ)) :
    Prop :=
  ∀ entry ∈ entries, (∃ link ∈ transcript, link.2.entryHash = entry.entryHash) ∨
    ∀ previous content, entry.entryHash ≠ hash previous content

variable {hash : δ → γ → δ} {previous : δ} {entries : List (Entry δ γ)} {entry : Entry δ γ}
  {transcript : List (δ × Entry δ γ)}

@[simp] theorem verifies_nil : Verifies hash previous [] := by
  simp [Verifies, links]

@[simp] theorem verifies_cons : Verifies hash previous (entry :: entries) ↔
    entry.entryHash = hash previous entry.content ∧ Verifies hash entry.entryHash entries := by
  simp [Verifies, links, Hashed]

theorem links_append (previous : δ) (entries more : List (Entry δ γ)) :
    links previous (entries ++ more) =
      links previous entries ++ links (last previous entries) more := by
  induction entries generalizing previous with
  | nil => rfl
  | cons entry rest ih => simp [links, last, ih]

/-- A longer chain verifies if the shorter one does and the new entry is hashed. -/
theorem verifies_snoc : Verifies hash previous (entries ++ [entry]) ↔
    Verifies hash previous entries ∧
      entry.entryHash = hash (last previous entries) entry.content := by
  simp [Verifies, links_append, or_imp, forall_and, links, Hashed]

theorem rehash_verifies (hash : δ → γ → δ) (previous : δ) (entries : List (Entry δ γ)) :
    Verifies hash previous (rehash hash previous entries) := by
  induction entries generalizing previous with
  | nil => simp [rehash]
  | cons entry rest ih => simp [rehash, ih]

@[simp] theorem rehash_contents (hash : δ → γ → δ) (previous : δ) (entries : List (Entry δ γ)) :
    (rehash hash previous entries).map (·.content) = entries.map (·.content) := by
  induction entries generalizing previous with
  | nil => rfl
  | cons entry rest ih => simp [rehash, ih]

theorem mem_of_mem_links {link : δ × Entry δ γ} (member : link ∈ links previous entries) :
    link.2 ∈ entries := by
  induction entries generalizing previous with
  | nil => simp [links] at member
  | cons entry rest ih =>
      rcases List.mem_cons.mp member with rfl | further
      · exact List.mem_cons_self
      · exact List.mem_cons_of_mem _ (ih further)

/-- With a hash that has no collisions, what is stored without the key verifies only if all its
links have been made before. -/
theorem verifies_iff_made (injective : Function.Injective2 hash)
    (hashed : ∀ link ∈ transcript, Hashed hash link) (keyless : Keyless hash transcript entries) :
    Verifies hash previous entries ↔ Made transcript previous entries := by
  constructor
  · intro verifies link member
    have here := verifies link member
    rcases keyless link.2 (mem_of_mem_links member) with ⟨made, inside, same⟩ | unknown
    · have there := hashed made inside
      have collide : hash made.1 made.2.content = hash link.1 link.2.content := by
        rw [← here, ← there, same]
      obtain ⟨samePrevious, sameContent⟩ := injective collide
      obtain ⟨madePrevious, madeContent, madeHash⟩ := made
      obtain ⟨linkPrevious, linkContent, linkHash⟩ := link
      obtain rfl : madePrevious = linkPrevious := samePrevious
      obtain rfl : madeContent = linkContent := sameContent
      obtain rfl : madeHash = linkHash := same
      exact inside
    · exact absurd here (unknown _ _)
  · intro made link member
    exact hashed link (made member)

end TrustChain.Library.HashChain
