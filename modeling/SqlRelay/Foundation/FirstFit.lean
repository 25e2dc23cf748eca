import Mathlib.Data.List.Nodup

/-!
# Entries placed first-fit

A list of entries, each free or held under a key.  An entry is put in place of the first one that
is free or has its key already, and a key is released where it is found first.  Looking a key up
also finds its first entry.
-/

namespace SqlRelay.Foundation.FirstFit

universe u v

variable {Entry : Type u} {Key : Type v} (key : Entry → Option Key)

/-- The keys that entries are held under. -/
def held (entries : List Entry) : List Key := entries.filterMap key

/-- The keys held behind the first free entry. -/
def heldBehindFree (entries : List Entry) : List Key :=
  held key (entries.dropWhile fun entry => (key entry).isSome)

section

variable {key} {other : Entry} {rest : List Entry} {name : Key}

theorem held_cons_free (isFree : key other = none) : held key (other :: rest) = held key rest :=
  List.filterMap_cons_none isFree

theorem held_cons (isHeld : key other = some name) :
    held key (other :: rest) = name :: held key rest :=
  List.filterMap_cons_some isHeld

end

variable [DecidableEq Key]

/-- The first entry with this key. -/
def find (wanted : Key) (entries : List Entry) : Option Entry :=
  entries.find? fun entry => key entry = some wanted

/-- The entry in place of the first that is free or has its key, or behind all others. -/
def place (entry : Entry) : List Entry → List Entry
  | [] => [entry]
  | other :: rest =>
      if key other = none ∨ key other = key entry then entry :: rest
      else other :: place entry rest

/-- The first entry with this key is freed. -/
def release (free : Entry) (wanted : Key) : List Entry → List Entry
  | [] => []
  | other :: rest =>
      if key other = some wanted then free :: rest else other :: release free wanted rest

variable {key} {entry other free : Entry} {rest entries : List Entry} {name wanted : Key}

theorem find_cons_of_ne (differs : key other ≠ some wanted) :
    find key wanted (other :: rest) = find key wanted rest := by
  apply List.find?_cons_of_neg
  simpa using differs

theorem find_cons_of_eq (same : key other = some wanted) :
    find key wanted (other :: rest) = some other := by
  apply List.find?_cons_of_pos
  simpa using same

theorem key_of_find (found : find key wanted entries = some entry) : key entry = some wanted := by
  simpa using List.find?_some found

theorem mem_of_find (found : find key wanted entries = some entry) : entry ∈ entries :=
  List.mem_of_find?_eq_some found

theorem find_eq_none_iff : find key wanted entries = none ↔ wanted ∉ held key entries := by
  simp [find, held]

/-- A placed entry is found, and all other keys as before. -/
theorem find_place (named : key entry = some name) :
    find key wanted (place key entry entries) =
      if wanted = name then some entry else find key wanted entries := by
  have placed : ∀ later, find key wanted (entry :: later) =
      if wanted = name then some entry else find key wanted later := by
    intro later
    split
    case isTrue same => exact find_cons_of_eq (same ▸ named)
    case isFalse differs =>
      apply find_cons_of_ne
      rw [named, Ne, Option.some.injEq]
      exact fun same => differs same.symm
  induction entries with
  | nil => exact placed []
  | cons other rest ih =>
      rw [place]
      split
      case isTrue fits =>
        rw [placed]
        split
        case isTrue => rfl
        case isFalse differs =>
          symm
          apply find_cons_of_ne
          cases fits with
          | inl isFree => simp [isFree]
          | inr same =>
              rw [same, named, Ne, Option.some.injEq]
              exact fun same => differs same.symm
      case isFalse taken =>
        by_cases here : key other = some wanted
        · rw [find_cons_of_eq here, find_cons_of_eq here, if_neg]
          intro same
          exact taken (Or.inr (here.trans (same ▸ named.symm)))
        · rw [find_cons_of_ne here, find_cons_of_ne here]
          exact ih

theorem mem_held_of_place (named : key entry = some name)
    (member : wanted ∈ held key (place key entry entries)) :
    wanted = name ∨ wanted ∈ held key entries := by
  by_contra neither
  rw [not_or] at neither
  have missing : find key wanted (place key entry entries) = none := by
    rw [find_place named, if_neg neither.1, find_eq_none_iff.mpr neither.2]
  rw [find_eq_none_iff] at missing
  exact missing member

/-- No key is held twice after a placement exactly if the key was not held behind a free entry. -/
theorem nodup_place_iff (named : key entry = some name) (once : (held key entries).Nodup) :
    (held key (place key entry entries)).Nodup ↔ name ∉ heldBehindFree key entries := by
  induction entries with
  | nil => simp [place, held, heldBehindFree, named]
  | cons other rest ih =>
      rw [place]
      cases isHeld : key other with
      | none =>
          rw [held_cons_free isHeld] at once
          rw [if_pos (Or.inl rfl), held_cons named, List.nodup_cons, heldBehindFree,
            List.dropWhile_cons_of_neg (by simp [isHeld]), held_cons_free isHeld]
          exact and_iff_left once
      | some another =>
          rw [held_cons isHeld, List.nodup_cons] at once
          rw [heldBehindFree, List.dropWhile_cons_of_pos (by simp [isHeld]), named]
          by_cases same : another = name
          · subst same
            rw [if_pos (Or.inr rfl), held_cons named]
            apply iff_of_true (List.nodup_cons.mpr once)
            intro behind
            exact once.1 (((List.dropWhile_sublist _).filterMap key).mem behind)
          · rw [if_neg (by simpa using same), held_cons isHeld, List.nodup_cons, ih once.2]
            apply and_iff_right
            intro member
            cases mem_held_of_place named member with
            | inl equal => exact same equal
            | inr before => exact once.1 before

/-- A released key is not found any more, and all other keys as before. -/
theorem find_release (isFree : key free = none) (once : (held key entries).Nodup) :
    find key wanted (release key free name entries) =
      if wanted = name then none else find key wanted entries := by
  induction entries with
  | nil => simp [release, find]
  | cons other rest ih =>
      rw [release]
      split
      case isTrue here =>
        rw [held_cons here, List.nodup_cons] at once
        rw [find_cons_of_ne (by simp [isFree])]
        split
        case isTrue same => exact find_eq_none_iff.mpr (same ▸ once.1)
        case isFalse differs =>
          rw [find_cons_of_ne]
          rw [here, Ne, Option.some.injEq]
          exact fun same => differs same.symm
      case isFalse elsewhere =>
        have later : (held key rest).Nodup :=
          once.sublist ((List.sublist_cons_self other rest).filterMap key)
        by_cases here : key other = some wanted
        · rw [find_cons_of_eq here, find_cons_of_eq here, if_neg]
          intro same
          exact elsewhere (same ▸ here)
        · rw [find_cons_of_ne here, find_cons_of_ne here]
          exact ih later

theorem nodup_release (isFree : key free = none) (once : (held key entries).Nodup) :
    (held key (release key free name entries)).Nodup := by
  have fewer : (held key (release key free name entries)).Sublist (held key entries) := by
    clear once
    induction entries with
    | nil => exact List.Sublist.refl _
    | cons other rest ih =>
        rw [release]
        split
        case isTrue here =>
          rw [held_cons_free isFree, held_cons here]
          exact List.sublist_cons_self _ _
        case isFalse =>
          cases isHeld : key other with
          | none =>
              rw [held_cons_free isHeld, held_cons_free isHeld]
              exact ih
          | some another =>
              rw [held_cons isHeld, held_cons isHeld]
              exact ih.cons_cons another
  exact once.sublist fewer

theorem mem_of_mem_place (member : other ∈ place key entry entries) :
    other = entry ∨ other ∈ entries := by
  induction entries with
  | nil => exact Or.inl (List.mem_singleton.mp member)
  | cons first rest ih =>
      rw [place] at member
      split at member
      case isTrue =>
        cases List.mem_cons.mp member with
        | inl same => exact Or.inl same
        | inr later => exact Or.inr (List.mem_cons_of_mem _ later)
      case isFalse =>
        cases List.mem_cons.mp member with
        | inl same => exact Or.inr (List.mem_cons.mpr (Or.inl same))
        | inr later => exact (ih later).imp_right (List.mem_cons_of_mem _)

theorem mem_of_mem_release (member : other ∈ release key free name entries) :
    other = free ∨ other ∈ entries := by
  induction entries with
  | nil => cases member
  | cons first rest ih =>
      rw [release] at member
      split at member
      case isTrue =>
        cases List.mem_cons.mp member with
        | inl same => exact Or.inl same
        | inr later => exact Or.inr (List.mem_cons_of_mem _ later)
      case isFalse =>
        cases List.mem_cons.mp member with
        | inl same => exact Or.inr (List.mem_cons.mpr (Or.inl same))
        | inr later => exact (ih later).imp_right (List.mem_cons_of_mem _)

end SqlRelay.Foundation.FirstFit
