/-!
# Probe labels

A probe carries labels, each a key with one value.  They are kept in the order
of their keys, so equal sets of labels are equal values.
-/

namespace ProbeLifecycle

/-- Adds an entry to a list in the order of its keys, in place of the entry
with the same key. -/
def insertEntry (key value : String) :
    List (String × String) → List (String × String)
  | [] => [(key, value)]
  | entry :: entries =>
      if key < entry.1 then (key, value) :: entry :: entries
      else if key = entry.1 then (key, value) :: entries
      else entry :: insertEntry key value entries

/-- Every key comes before all later ones. -/
def KeysAscending (entries : List (String × String)) : Prop :=
  entries.Pairwise fun earlier later => earlier.1 < later.1

theorem mem_insertEntry {key value : String} {entry : String × String}
    {entries : List (String × String)}
    (member : entry ∈ insertEntry key value entries) :
    entry = (key, value) ∨ entry ∈ entries := by
  induction entries with
  | nil => simpa [insertEntry] using member
  | cons head entries ih =>
      simp only [insertEntry] at member
      split at member
      · simpa using member
      · split at member
        · rcases List.mem_cons.mp member with equal | member
          · exact .inl equal
          · exact .inr (List.mem_cons_of_mem _ member)
        · rcases List.mem_cons.mp member with equal | member
          · exact .inr (by simp [equal])
          · rcases ih member with equal | member
            · exact .inl equal
            · exact .inr (List.mem_cons_of_mem _ member)

theorem keysAscending_insertEntry (key value : String)
    {entries : List (String × String)} (ascending : KeysAscending entries) :
    KeysAscending (insertEntry key value entries) := by
  induction entries with
  | nil => simp [KeysAscending, insertEntry]
  | cons entry entries ih =>
      obtain ⟨later, rest⟩ := List.pairwise_cons.mp ascending
      simp only [insertEntry]
      split
      · rename_i before
        refine List.pairwise_cons.mpr ⟨?_, ascending⟩
        intro other member
        rcases List.mem_cons.mp member with equal | member
        · exact equal ▸ before
        · exact String.lt_trans before (later other member)
      · split
        · rename_i equal
          refine List.pairwise_cons.mpr ⟨?_, rest⟩
          intro other member
          exact equal ▸ later other member
        · rename_i notBefore notEqual
          refine List.pairwise_cons.mpr ⟨?_, ih rest⟩
          intro other member
          rcases mem_insertEntry member with equal | member
          · subst equal
            exact Std.lt_of_le_of_ne (Std.not_lt.mp notBefore)
              (fun equal => notEqual equal.symm)
          · exact later other member

structure Labels where
  entries : List (String × String) := []
  ascending : KeysAscending entries := by exact .nil
  deriving DecidableEq

namespace Labels

def empty : Labels := {}

def insert (labels : Labels) (key value : String) : Labels where
  entries := insertEntry key value labels.entries
  ascending := keysAscending_insertEntry key value labels.ascending

/-- The labels given by entries in any order; the last entry of a key counts. -/
def ofEntries (entries : List (String × String)) : Labels :=
  entries.foldl (fun labels entry => labels.insert entry.1 entry.2) empty

def get? (labels : Labels) (key : String) : Option String :=
  labels.entries.lookup key

end Labels

end ProbeLifecycle
