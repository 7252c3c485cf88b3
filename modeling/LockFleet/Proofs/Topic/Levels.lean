import LockFleet.Topic
import Mathlib.Data.List.Basic

/-!
# The levels of a text

A text is split at every slash and nowhere else, so that its levels are the only texts without a
slash that make it up.  Slashes that follow one another, or that stand at an end, leave empty levels.

* `Topic.splitLevels_append`, `Topic.levels_induction` — level by level;
* `Topic.intercalate_splitLevels`, `Topic.splitLevels_intercalate` — splitting and joining;
* `Topic.IsMadeOf`, `Topic.isMadeOf_iff` — the texts that make a text up are its levels.
-/

namespace LockFleet.Topic

/-! ### One level after another -/

theorem splitLevels_of_not_mem {cs : List Char} (h : '/' ∉ cs) : splitLevels cs = [cs] := by
  induction cs with
  | nil => rfl
  | cons c cs ih =>
    obtain ⟨hc, hcs⟩ : '/' ≠ c ∧ '/' ∉ cs := by simpa using h
    rw [splitLevels, if_neg (Ne.symm hc), ih hcs]

/-- The first slash ends the first level. -/
theorem splitLevels_append {cs rest : List Char} (h : '/' ∉ cs) :
    splitLevels (cs ++ '/' :: rest) = cs :: splitLevels rest := by
  induction cs with
  | nil => rw [List.nil_append, splitLevels, if_pos rfl]
  | cons c cs ih =>
    obtain ⟨hc, hcs⟩ : '/' ≠ c ∧ '/' ∉ cs := by simpa using h
    rw [List.cons_append, splitLevels, if_neg (Ne.symm hc), ih hcs]

/-- A text holds no slash, or it is a first level without one, a slash and the rest. -/
@[elab_as_elim]
theorem levels_induction {P : List Char → Prop} (one : ∀ cs, '/' ∉ cs → P cs)
    (more : ∀ cs rest, '/' ∉ cs → P rest → P (cs ++ '/' :: rest)) (cs : List Char) : P cs := by
  by_cases h : '/' ∈ cs
  · obtain ⟨first, rest, hcs, hfirst⟩ := List.eq_append_cons_of_mem h
    have : rest.length < cs.length := by simp [hcs]; omega
    exact hcs ▸ more first rest hfirst (levels_induction one more rest)
  · exact one cs h
termination_by cs.length

theorem splitLevels_ne_nil (cs : List Char) : splitLevels cs ≠ [] := by
  induction cs using levels_induction with
  | one cs h => rw [splitLevels_of_not_mem h]; exact List.cons_ne_nil _ _
  | more cs rest h _ => rw [splitLevels_append h]; exact List.cons_ne_nil _ _

/-- No level holds a slash. -/
theorem not_mem_of_mem_splitLevels {cs level : List Char} (h : level ∈ splitLevels cs) :
    '/' ∉ level := by
  induction cs using levels_induction with
  | one cs hcs =>
    rw [splitLevels_of_not_mem hcs] at h
    rw [List.mem_singleton.1 h]
    exact hcs
  | more cs rest hcs ih =>
    rw [splitLevels_append hcs] at h
    rcases List.mem_cons.1 h with rfl | h
    · exact hcs
    · exact ih h

/-- Behind a slash the levels of the rest follow. -/
theorem splitLevels_slash (cs rest : List Char) :
    splitLevels (cs ++ '/' :: rest) = splitLevels cs ++ splitLevels rest := by
  induction cs using levels_induction with
  | one cs h => rw [splitLevels_append h, splitLevels_of_not_mem h, List.singleton_append]
  | more cs cs' h ih =>
    rw [List.append_assoc, List.cons_append, splitLevels_append h, splitLevels_append h, ih,
      List.cons_append]

/-- What comes after the last slash is the last level. -/
theorem getLast?_splitLevels {last : List Char} (hlast : '/' ∉ last) (cs : List Char) :
    (splitLevels (cs ++ '/' :: last)).getLast? = some last := by
  rw [splitLevels_slash, splitLevels_of_not_mem hlast, List.getLast?_concat]

/-! ### Joining -/

/-- The levels with slashes between them are the text. -/
theorem intercalate_splitLevels (cs : List Char) : ['/'].intercalate (splitLevels cs) = cs := by
  induction cs using levels_induction with
  | one cs h => rw [splitLevels_of_not_mem h, List.intercalate_singleton]
  | more cs rest h ih =>
    rw [splitLevels_append h, List.intercalate_cons_of_ne_nil (splitLevels_ne_nil rest), ih,
      List.append_assoc, List.singleton_append]

/-- Texts without a slash are the levels of what they make up. -/
theorem splitLevels_intercalate {ls : List (List Char)} (hls : ls ≠ [])
    (h : ∀ l ∈ ls, '/' ∉ l) : splitLevels (['/'].intercalate ls) = ls := by
  induction ls with
  | nil => exact absurd rfl hls
  | cons l ls ih =>
    have hl : '/' ∉ l := h l List.mem_cons_self
    cases ls with
    | nil => rw [List.intercalate_singleton, splitLevels_of_not_mem hl]
    | cons l' ls =>
      have hrest := ih (List.cons_ne_nil l' ls) fun l hmem => h l (List.mem_cons_of_mem _ hmem)
      rw [List.intercalate_cons_of_ne_nil (List.cons_ne_nil l' ls), List.append_assoc,
        List.singleton_append, splitLevels_append hl, hrest]

/-- Texts that make a text up: none of them holds a slash, and with slashes between them they are
the text. -/
structure IsMadeOf (text : String) (ls : List String) : Prop where
  nonempty : ls ≠ []
  single : ∀ l ∈ ls, '/' ∉ l.toList
  joined : "/".intercalate ls = text

theorem isMadeOf_iff {text : String} {ls : List String} : IsMadeOf text ls ↔ ls = levels text := by
  constructor
  · rintro ⟨hnonempty, hsingle, rfl⟩
    have hsplit : splitLevels ("/".intercalate ls).toList = ls.map String.toList := by
      rw [String.toList_intercalate]
      refine splitLevels_intercalate (fun h => hnonempty (List.map_eq_nil_iff.1 h)) fun l hl => ?_
      obtain ⟨l', hl', rfl⟩ := List.mem_map.1 hl
      exact hsingle l' hl'
    rw [levels, hsplit, List.map_map]
    simp [Function.comp_def]
  · rintro rfl
    refine ⟨fun h => splitLevels_ne_nil _ (List.map_eq_nil_iff.1 h), fun l hl => ?_, ?_⟩
    · obtain ⟨l', hl', rfl⟩ := List.mem_map.1 hl
      rw [String.toList_ofList]
      exact not_mem_of_mem_splitLevels hl'
    · rw [← String.toList_inj, String.toList_intercalate, levels, List.map_map]
      simpa [Function.comp_def] using intercalate_splitLevels text.toList

/-- The levels of two texts with a slash between them. -/
theorem levels_slash (a b : String) : levels (a ++ "/" ++ b) = levels a ++ levels b := by
  have htext : (a ++ "/" ++ b).toList = a.toList ++ '/' :: b.toList := by simp
  rw [levels, htext, splitLevels_slash, List.map_append]
  rfl

end LockFleet.Topic
