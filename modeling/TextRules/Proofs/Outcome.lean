namespace TextRules

/-!
# Outcomes

A computation that can fail has an outcome, a value or a fault.  This file says when the outcomes
of two computations agree, each in its own terms for values and faults, what the outcome of a
composed computation says about its parts, and what a list of outcomes comes to.
-/

section Agree

variable {ε ε' η η' α β γ δ : Type} {E : ε → ε' → Prop} {F : η → η' → Prop} {R : α → β → Prop}
  {S : γ → δ → Prop}

/-- Two outcomes agree when both succeed with related values or both fail with related faults. -/
inductive Agree (E : ε → ε' → Prop) (R : α → β → Prop) : Except ε α → Except ε' β → Prop
  | ok {a : α} {b : β} (h : R a b) : Agree E R (.ok a) (.ok b)
  | error {e : ε} {e' : ε'} (h : E e e') : Agree E R (.error e) (.error e')

namespace Agree

theorem of_ok_right {x : Except ε α} {b : β} (h : Agree E R x (.ok b)) :
    ∃ a, x = .ok a ∧ R a b := by
  cases h with
  | ok h => exact ⟨_, rfl, h⟩

theorem of_ok_left {a : α} {y : Except ε' β} (h : Agree E R (.ok a) y) :
    ∃ b, y = .ok b ∧ R a b := by
  cases h with
  | ok h => exact ⟨_, rfl, h⟩

theorem of_error_right {x : Except ε α} {e' : ε'} (h : Agree E R x (.error e')) :
    ∃ e, x = .error e ∧ E e e' := by
  cases h with
  | error h => exact ⟨_, rfl, h⟩

/-- What goes on from agreeing outcomes in an agreeing way ends in agreeing outcomes. -/
theorem bind {x : Except ε α} {y : Except ε' β} {f : α → Except ε γ} {g : β → Except ε' δ}
    (h : Agree E R x y) (hfg : ∀ a b, R a b → Agree E S (f a) (g b)) :
    Agree E S (x.bind f) (y.bind g) := by
  cases h with
  | ok h => exact hfg _ _ h
  | error h => exact .error h

/-- Agreement carries over to faults that are told in other words. -/
theorem mapError {x : Except ε α} {y : Except ε' β} {f : ε → η} {g : ε' → η'}
    (h : Agree E R x y) (hfg : ∀ e e', E e e' → F (f e) (g e')) :
    Agree F R (x.mapError f) (y.mapError g) := by
  cases h with
  | ok h => exact .ok h
  | error h => exact .error (hfg _ _ h)

end Agree

/-- Outcomes that agree in every detail are the same. -/
theorem agree_eq_iff {x y : Except ε α} : Agree Eq Eq x y ↔ x = y := by
  constructor
  · rintro (h | h) <;> rw [h]
  · rintro rfl
    cases x with
    | ok a => exact .ok rfl
    | error e => exact .error rfl

end Agree

/-! ### Outcomes of composed computations -/

section Composed

variable {ε η α β : Type}

@[simp] theorem mapError_ok (a : α) (f : ε → η) :
    (Except.ok a : Except ε α).mapError f = .ok a := rfl

@[simp] theorem mapError_error (e : ε) (f : ε → η) :
    (Except.error e : Except ε α).mapError f = .error (f e) := rfl

theorem mapError_id (x : Except ε α) : x.mapError id = x := by
  cases x <;> rfl

theorem mapError_eq_ok_iff {x : Except ε α} {f : ε → η} {a : α} :
    x.mapError f = .ok a ↔ x = .ok a := by
  cases x <;> simp

theorem mapError_eq_error_iff {x : Except ε α} {f : ε → η} {e : η} :
    x.mapError f = .error e ↔ ∃ cause, x = .error cause ∧ f cause = e := by
  cases x <;> simp

theorem map_eq_error_iff {x : Except ε α} {f : α → β} {e : ε} :
    x.map f = .error e ↔ x = .error e := by
  cases x <;> simp [Except.map]

theorem map_eq_ok_iff {x : Except ε α} {f : α → β} {b : β} :
    x.map f = .ok b ↔ ∃ a, x = .ok a ∧ f a = b := by
  cases x <;> simp [Except.map]

theorem bind_eq_ok_iff {x : Except ε α} {f : α → Except ε β} {b : β} :
    x.bind f = .ok b ↔ ∃ a, x = .ok a ∧ f a = .ok b := by
  cases x <;> simp [Except.bind]

/-- A composed computation fails at its first part, or after it. -/
theorem bind_eq_error_iff {x : Except ε α} {f : α → Except ε β} {e : ε} :
    x.bind f = .error e ↔ x = .error e ∨ ∃ a, x = .ok a ∧ f a = .error e := by
  cases x <;> simp [Except.bind]

end Composed

/-! ### Outcomes of lists -/

section Collected

variable {ε α : Type} {outcomes : List (Except ε α)} {result : Except ε (List α)}

/-- The result of working through a list, known from the outcomes of its members: all values in
    their order if there are only values, and otherwise the first fault. -/
structure Collects (outcomes : List (Except ε α)) (result : Except ε (List α)) : Prop where
  ok_iff : ∀ values : List α, result = .ok values ↔ outcomes = values.map .ok
  error_iff : ∀ cause, result = .error cause ↔
    ∃ (values : List α) (rest : List (Except ε α)),
      outcomes = values.map .ok ++ .error cause :: rest

/-- Outcomes without a fault are a list of values. -/
theorem exists_map_ok (h : ∀ outcome ∈ outcomes, ∃ a, outcome = .ok a) :
    ∃ values : List α, outcomes = values.map .ok := by
  induction outcomes with
  | nil => exact ⟨[], rfl⟩
  | cons outcome rest ih =>
    obtain ⟨a, rfl⟩ := h outcome List.mem_cons_self
    obtain ⟨values, rfl⟩ := ih fun o ho => h o (List.mem_cons_of_mem _ ho)
    exact ⟨a :: values, rfl⟩

namespace Collects

theorem nil : Collects ([] : List (Except ε α)) (.ok []) where
  ok_iff values := by cases values <;> simp
  error_iff cause := by simp

/-- Nothing is read behind a fault. -/
theorem cons_error (cause : ε) (rest : List (Except ε α)) :
    Collects (.error cause :: rest) (.error cause) where
  ok_iff values := by cases values <;> simp
  error_iff other := by
    constructor
    · intro h
      cases h
      exact ⟨[], rest, rfl⟩
    · rintro ⟨_ | ⟨value, values⟩, rest', h⟩
      · cases h
        rfl
      · cases h

/-- A value goes in front of those that follow it. -/
theorem cons_ok (h : Collects outcomes result) (a : α) :
    Collects (.ok a :: outcomes) (result.map fun values => a :: values) where
  ok_iff values := by
    rw [map_eq_ok_iff]
    constructor
    · rintro ⟨values, hvalues, rfl⟩
      rw [(h.ok_iff values).mp hvalues, List.map_cons]
    · intro heq
      cases values with
      | nil => cases heq
      | cons value values =>
        obtain ⟨hvalue, hrest⟩ := List.cons.inj heq
        cases hvalue
        exact ⟨values, (h.ok_iff values).mpr hrest, rfl⟩
  error_iff cause := by
    rw [map_eq_error_iff, h.error_iff]
    constructor
    · rintro ⟨values, rest, rfl⟩
      exact ⟨a :: values, rest, rfl⟩
    · rintro ⟨_ | ⟨value, values⟩, rest, heq⟩
      · cases heq
      · exact ⟨values, rest, (List.cons.inj heq).2⟩

/-- There is a value for each member. -/
theorem length_eq {values : List α} (h : Collects outcomes (.ok values)) :
    values.length = outcomes.length := by
  rw [(h.ok_iff values).mp rfl, List.length_map]

/-- Without a fault there are only values. -/
theorem exists_ok (h : Collects outcomes result)
    (hok : ∀ outcome ∈ outcomes, ∃ a, outcome = .ok a) : ∃ values, result = .ok values := by
  obtain ⟨values, rfl⟩ := exists_map_ok hok
  exact ⟨values, (h.ok_iff values).mpr rfl⟩

theorem exists_ok_iff (h : Collects outcomes result) :
    (∃ values, result = .ok values) ↔ ∀ outcome ∈ outcomes, ∃ a, outcome = .ok a := by
  refine ⟨?_, h.exists_ok⟩
  rintro ⟨values, hvalues⟩ outcome houtcome
  rw [(h.ok_iff values).mp hvalues] at houtcome
  obtain ⟨a, -, ha⟩ := List.mem_map.mp houtcome
  exact ⟨a, ha.symm⟩

/-- The first fault decides. -/
theorem eq_error {before after : List (Except ε α)} {cause : ε}
    (h : Collects (before ++ .error cause :: after) result)
    (hok : ∀ outcome ∈ before, ∃ a, outcome = .ok a) : result = .error cause := by
  obtain ⟨values, rfl⟩ := exists_map_ok hok
  exact (h.error_iff cause).mpr ⟨values, after, rfl⟩

end Collects

/-- Working through a list with a computation that can fail gives all its values, or its first
    fault. -/
theorem collects_mapM {ε α β : Type} (f : α → Except ε β) (xs : List α) :
    Collects (xs.map f) (xs.mapM f) := by
  induction xs with
  | nil => exact .nil
  | cons x rest ih =>
    rw [List.map_cons, List.mapM_cons]
    cases f x with
    | error cause => exact .cons_error cause _
    | ok b => exact ih.cons_ok b

end Collected

/-! ### The first fault -/

section FirstFault

variable {ε η α β γ : Type} {f : β → Except ε α} {xs : List β}

/-- The first member of a list for which a computation fails, with its place and its fault. -/
structure FirstFault (f : β → Except ε α) (xs : List β) (place : Nat) (x : β) (cause : ε) :
    Prop where
  at_place : xs[place]? = some x
  fault : f x = .error cause
  before : ∀ earlier < place, ∀ y, xs[earlier]? = some y → ∃ a, f y = .ok a

/-- In front of the first fault there are values. -/
theorem FirstFault.exists_split {place : Nat} {x : β} {cause : ε}
    (h : FirstFault f xs place x cause) :
    ∃ (values : List α) (rest : List (Except ε α)),
      xs.map f = values.map .ok ++ .error cause :: rest := by
  obtain ⟨hlt, rfl⟩ := List.getElem?_eq_some_iff.mp h.at_place
  have hvalues : ∀ outcome ∈ (xs.take place).map f, ∃ a, outcome = .ok a := by
    intro outcome houtcome
    obtain ⟨y, hy, rfl⟩ := List.mem_map.mp houtcome
    obtain ⟨earlier, hearlier, rfl⟩ := List.mem_take_iff_getElem.mp hy
    exact h.before earlier (by omega) _ (List.getElem?_eq_getElem _)
  obtain ⟨values, hvalues⟩ := exists_map_ok hvalues
  refine ⟨values, (xs.drop (place + 1)).map f, ?_⟩
  rw [← hvalues, ← h.fault, ← List.map_cons, ← List.drop_eq_getElem_cons hlt, ← List.map_append,
    List.take_append_drop]

/-- Working through a list fails exactly for its first fault. -/
theorem Collects.error_iff_firstFault {result : Except ε (List α)}
    (h : Collects (xs.map f) result) {cause : ε} :
    result = .error cause ↔ ∃ place x, FirstFault f xs place x cause := by
  rw [h.error_iff]
  constructor
  · rintro ⟨values, rest, hsplit⟩
    -- the place of the first fault is the number of the values before it
    have hvalue : ∀ (place : Nat) (y : β), xs[place]? = some y →
        (values.map .ok ++ .error cause :: rest)[place]? = some (f y) := by
      intro place y hy
      rw [← hsplit, List.getElem?_map, hy]
      rfl
    have hlength : values.length < xs.length := by
      have hlength := congrArg List.length hsplit
      rw [List.length_map, List.length_append, List.length_map, List.length_cons] at hlength
      omega
    refine ⟨values.length, xs[values.length], List.getElem?_eq_getElem hlength, ?_, ?_⟩
    · have hfault := hvalue _ _ (List.getElem?_eq_getElem hlength)
      rw [List.getElem?_append_right (by simp)] at hfault
      simpa using hfault.symm
    · intro earlier hearlier y hy
      have hok := hvalue _ _ hy
      rw [List.getElem?_append_left (by simpa using hearlier), List.getElem?_map,
        List.getElem?_eq_getElem hearlier] at hok
      exact ⟨values[earlier], (Option.some.inj hok).symm⟩
  · rintro ⟨place, x, hfirst⟩
    exact hfirst.exists_split

/-- Two computations that give the same values fail first for the same member. -/
theorem FirstFault.of_same_values {g : β → Except η α} {place : Nat} {x : β} {cause : ε}
    {other : η} (h : FirstFault f xs place x cause)
    (hsame : ∀ y a, f y = .ok a ↔ g y = .ok a) (hfault : g x = .error other) :
    FirstFault g xs place x other where
  at_place := h.at_place
  fault := hfault
  before earlier hearlier y hy := by
    obtain ⟨a, ha⟩ := h.before earlier hearlier y hy
    exact ⟨a, (hsame y a).mp ha⟩

/-- Every value that was collected is the value of some member. -/
theorem exists_of_map_eq_map_ok {values : List α} (h : xs.map f = values.map .ok) {a : α}
    (ha : a ∈ values) : ∃ x ∈ xs, f x = .ok a := by
  have hmem : Except.ok a ∈ xs.map f := h ▸ List.mem_map_of_mem ha
  exact List.mem_map.mp hmem

/-- Two computations that give the same values give the same lists of values. -/
theorem map_eq_map_ok_congr {g : β → Except η α} (h : ∀ x a, f x = .ok a ↔ g x = .ok a)
    {values : List α} : xs.map f = values.map .ok ↔ xs.map g = values.map .ok := by
  induction xs generalizing values with
  | nil => simp
  | cons x rest ih => cases values <;> simp [h, ih]

/-- Working through numbered members, where a fault is told with the number of its member. -/
theorem Collects.numbered {mk : Nat → β → γ} {g : γ → Except η α} {tell : Nat → ε → η}
    (hg : ∀ place x, g (mk place x) = (f x).mapError (tell place))
    {plain : Except ε (List α)} {told : Except η (List α)} (hplain : Collects (xs.map f) plain)
    (htold : Collects ((xs.mapIdx mk).map g) told) :
    (∀ values, told = .ok values ↔ plain = .ok values) ∧
    ∀ refusal, told = .error refusal ↔
      ∃ place x cause, FirstFault f xs place x cause ∧ refusal = tell place cause := by
  have hmember : ∀ (place : Nat) (y : γ),
      (xs.mapIdx mk)[place]? = some y ↔ ∃ x, xs[place]? = some x ∧ mk place x = y := by
    intro place y
    rw [List.getElem?_mapIdx, Option.map_eq_some_iff]
  have hok : ∀ place x, (∃ a, g (mk place x) = .ok a) ↔ ∃ a, f x = .ok a := by
    intro place x
    simp only [hg, mapError_eq_ok_iff]
  constructor
  · intro values
    rw [htold.ok_iff, hplain.ok_iff, List.ext_getElem?_iff, List.ext_getElem?_iff]
    refine forall_congr' fun place => ?_
    simp only [List.getElem?_map, List.getElem?_mapIdx]
    cases xs[place]? <;> cases values[place]? <;> simp [hg, mapError_eq_ok_iff]
  · intro refusal
    rw [htold.error_iff_firstFault]
    constructor
    · rintro ⟨place, _, hplace, hfault, hbefore⟩
      obtain ⟨x, hx, rfl⟩ := (hmember place _).mp hplace
      rw [hg] at hfault
      obtain ⟨cause, hcause, rfl⟩ := mapError_eq_error_iff.mp hfault
      refine ⟨place, x, cause, ⟨hx, hcause, fun earlier hearlier y hy => ?_⟩, rfl⟩
      exact (hok earlier y).mp (hbefore earlier hearlier _ ((hmember _ _).mpr ⟨y, hy, rfl⟩))
    · rintro ⟨place, x, cause, hfirst, rfl⟩
      refine ⟨place, mk place x, (hmember _ _).mpr ⟨x, hfirst.at_place, rfl⟩, ?_, ?_⟩
      · rw [hg, hfirst.fault, mapError_error]
      · intro earlier hearlier _ hmade
        obtain ⟨y, hy, rfl⟩ := (hmember _ _).mp hmade
        exact (hok earlier y).mpr (hfirst.before earlier hearlier y hy)

end FirstFault

end TextRules
