import LockFleet.Proofs.Topic.Levels

/-!
# What a filter selects

A filter is compared with a topic level by level from the front.  What it selects can be said without
the comparison: by the place of its first level `#`, and by the levels before that place.  Only a
level that is nothing but `+` or `#` is a wildcard, and an empty level is one like any other.

* `Topic.StandsFor`, `Topic.Meets` — what a filter means;
* `Topic.meets_cons`, `Topic.levelsSelect_iff` — level by level, this is the comparison;
* `Topic.meets_self`, `Topic.Meets.below` — a filter that ends in `#` selects what is below a topic;
* `Topic.Declared`, `Topic.selection_declared` — the comparison of texts.
-/

namespace LockFleet.Topic

/-- Each of the first levels of a filter stands for the level of a topic in its place: `+` for any
level, and every other level for itself. -/
def StandsFor (n : Nat) (fs ts : List String) : Prop :=
  ∀ i < n, fs[i]? = some "+" ∨ fs[i]? = ts[i]?

/-- What the levels of a filter mean. -/
inductive Meets (fs ts : List String) : Prop where
  /-- Without a level `#`, the topic has as many levels as the filter. -/
  | plain (hplain : "#" ∉ fs) (hlength : fs.length = ts.length) (hstand : StandsFor fs.length fs ts)
  /-- The first level `#` stands for all levels from its place on, be there any or none. -/
  | upTo (k : Nat) (hk : fs[k]? = some "#") (hfirst : ∀ i < k, fs[i]? ≠ some "#")
      (hlength : k ≤ ts.length) (hstand : StandsFor k fs ts)

variable {fs ts : List String} {f t : String} {n : Nat}

/-! ### Level by level -/

theorem standsFor_cons : StandsFor (n + 1) (f :: fs) (t :: ts) ↔
    (f = "+" ∨ f = t) ∧ StandsFor n fs ts := by
  constructor
  · intro h
    exact ⟨by simpa using h 0 (Nat.succ_pos n), fun i hi => h (i + 1) (Nat.succ_lt_succ hi)⟩
  · rintro ⟨hfirst, hrest⟩ i hi
    cases i with
    | zero => simpa using hfirst
    | succ i => exact hrest i (Nat.lt_of_succ_lt_succ hi)

theorem meets_nil : Meets [] ts ↔ ts = [] := by
  constructor
  · intro h
    cases h with
    | plain _ hlength _ => exact List.eq_nil_of_length_eq_zero hlength.symm
    | upTo k hk => cases hk
  · rintro rfl
    exact .plain List.not_mem_nil rfl fun i hi => absurd hi (Nat.not_lt_zero i)

theorem meets_hash : Meets ("#" :: fs) ts :=
  .upTo 0 rfl (fun i hi => absurd hi (Nat.not_lt_zero i)) (Nat.zero_le _)
    fun i hi => absurd hi (Nat.not_lt_zero i)

/-- A level other than `#` stands for one level, which has to be there. -/
theorem meets_cons (hf : f ≠ "#") : Meets (f :: fs) ts ↔
    ∃ t rest, ts = t :: rest ∧ (f = "+" ∨ f = t) ∧ Meets fs rest := by
  constructor
  · intro h
    cases h with
    | plain hplain hlength hstand =>
      obtain ⟨t, rest, rfl⟩ := List.exists_cons_of_length_pos (l := ts) (by simp [← hlength])
      obtain ⟨hfirst, hrest⟩ := standsFor_cons.1 hstand
      have hplain' : "#" ∉ fs := fun hmem => hplain (List.mem_cons_of_mem f hmem)
      exact ⟨t, rest, rfl, hfirst, .plain hplain' (Nat.succ.inj hlength) hrest⟩
    | upTo k hk hfirst hlength hstand =>
      cases k with
      | zero => exact absurd (Option.some.inj hk) hf
      | succ k =>
        obtain ⟨t, rest, rfl⟩ := List.exists_cons_of_length_pos (Nat.lt_of_lt_of_le k.succ_pos hlength)
        obtain ⟨hone, hrest⟩ := standsFor_cons.1 hstand
        have hfirst' : ∀ i < k, fs[i]? ≠ some "#" := fun i hi => hfirst (i + 1) (Nat.succ_lt_succ hi)
        exact ⟨t, rest, rfl, hone, .upTo k hk hfirst' (Nat.le_of_succ_le_succ hlength) hrest⟩
  · rintro ⟨t, rest, rfl, hone, h⟩
    cases h with
    | plain hplain hlength hstand =>
      refine .plain (fun hmem => ?_) (congrArg Nat.succ hlength) (standsFor_cons.2 ⟨hone, hstand⟩)
      exact (List.mem_cons.1 hmem).elim (fun h => hf h.symm) hplain
    | upTo k hk hfirst hlength hstand =>
      refine .upTo (k + 1) hk (fun i hi => ?_) (Nat.succ_le_succ hlength)
        (standsFor_cons.2 ⟨hone, hstand⟩)
      cases i with
      | zero => exact fun h => hf (Option.some.inj h)
      | succ i => exact hfirst i (Nat.lt_of_succ_lt_succ hi)

/-- **The comparison of levels decides what a filter means.** -/
theorem levelsSelect_iff (fs ts : List String) : levelsSelect fs ts = true ↔ Meets fs ts := by
  induction fs generalizing ts with
  | nil =>
    rw [meets_nil]
    cases ts <;> simp [levelsSelect]
  | cons f fs ih =>
    by_cases hf : f = "#"
    · subst hf
      simp [levelsSelect, meets_hash]
    · rw [meets_cons hf]
      cases ts with
      | nil => simp [levelsSelect, hf]
      | cons t ts => simp [levelsSelect, hf, ih]

/-! ### What is below a topic -/

/-- A filter selects the topic that is spelt as it is. -/
theorem meets_self (fs : List String) : Meets fs fs := by
  induction fs with
  | nil => exact meets_nil.2 rfl
  | cons f fs ih =>
    by_cases hf : f = "#"
    · subst hf
      exact meets_hash
    · exact (meets_cons hf).2 ⟨f, fs, rfl, Or.inr rfl, ih⟩

/-- With a level `#` at its end a filter selects, besides what it selects, all that is below. -/
theorem Meets.below (h : Meets fs ts) (more : List String) : Meets (fs ++ ["#"]) (ts ++ more) := by
  induction fs generalizing ts with
  | nil => exact meets_hash
  | cons f fs ih =>
    by_cases hf : f = "#"
    · subst hf
      exact meets_hash
    · obtain ⟨t, rest, rfl, hone, hrest⟩ := (meets_cons hf).1 h
      exact (meets_cons hf).2 ⟨t, rest ++ more, rfl, hone, ih hrest⟩

theorem levels_hash (filter : String) : levels (filter ++ "/#") = levels filter ++ ["#"] := by
  have htext : filter ++ "/#" = filter ++ "/" ++ "#" := by
    rw [String.append_assoc]
    rfl
  rw [htext, levels_slash]
  rfl

/-! ### Texts -/

/-- What filters mean, said of texts. -/
structure Declared : Prop where
  /-- A text is made up of levels in one way. -/
  splits : ∀ text, ∃! ls, IsMadeOf text ls
  /-- A filter selects a topic if and only if its levels mean those of the topic. -/
  selects_iff : ∀ filter topic, selects filter topic = true ↔
    ∃ fs ts, IsMadeOf filter fs ∧ IsMadeOf topic ts ∧ Meets fs ts
  /-- A text with `/#` behind it selects the text itself and all that is below it. -/
  above : ∀ text, selects (text ++ "/#") text = true
  below : ∀ text rest, selects (text ++ "/#") (text ++ "/" ++ rest) = true

theorem selects_iff_meets (filter topic : String) :
    selects filter topic = true ↔ Meets (levels filter) (levels topic) :=
  levelsSelect_iff _ _

/-- **A filter selects a topic exactly if it means it.** -/
theorem selection_declared : Declared where
  splits text := ⟨levels text, isMadeOf_iff.2 rfl, fun ls hls => isMadeOf_iff.1 hls⟩
  selects_iff filter topic := by
    rw [selects_iff_meets]
    constructor
    · intro h
      exact ⟨levels filter, levels topic, isMadeOf_iff.2 rfl, isMadeOf_iff.2 rfl, h⟩
    · rintro ⟨fs, ts, hfs, hts, h⟩
      rwa [isMadeOf_iff.1 hfs, isMadeOf_iff.1 hts] at h
  above text := by
    rw [selects_iff_meets, levels_hash, ← List.append_nil (levels text), List.append_assoc]
    exact (meets_self (levels text)).below []
  below text rest := by
    rw [selects_iff_meets, levels_hash, levels_slash]
    exact (meets_self (levels text)).below (levels rest)

/-- What stands behind a level `#` is not looked at, and a sign inside a level means itself. -/
example : selects "a/#/b" "a" = true ∧ selects "a/+b" "a/xb" = false ∧
    selects "a//+" "a//" = true := by
  decide

end LockFleet.Topic
