import Mathlib.Data.List.Forall2

/-!
# Performing steps that may fail

Sessions, work at a desk and runs of the command are steps over a state, which keep the state
that a failure leaves behind.

* `perform`: what comes of a step, and the state afterwards;
* `perform_bind_ok`, `perform_bind_error`: one step after another;
* `bind_eq_ok_iff`, `map_eq_ok_iff`, …: results without a state, taken apart;
* `pass_iff_exists_split`: where a pass over a list ends;
* `mapM_eq_ok_iff`, `exists_of_mem_mapM`, `mapM_eq_error_iff`: results one after the other.
-/

namespace Mailroom

variable {ε ε' σ α β : Type}

/-- What comes of a step in a state, with the state that it leaves. -/
def perform (step : ExceptT ε (StateM σ) α) (s : σ) : Except ε α × σ := (ExceptT.run step).run s

@[simp] theorem perform_pure (a : α) (s : σ) :
    perform (pure a : ExceptT ε (StateM σ) α) s = (.ok a, s) := rfl

@[simp] theorem perform_throw (e : ε) (s : σ) :
    perform (throw e : ExceptT ε (StateM σ) α) s = (.error e, s) := rfl

@[simp] theorem perform_get (s : σ) : perform (get : ExceptT ε (StateM σ) σ) s = (.ok s, s) := rfl

@[simp] theorem perform_modify (f : σ → σ) (s : σ) :
    perform (modify f : ExceptT ε (StateM σ) Unit) s = (.ok (), f s) := rfl

/-- A step that follows another takes place in the state that the first leaves, unless that
fails. -/
theorem perform_bind (step : ExceptT ε (StateM σ) α) (next : α → ExceptT ε (StateM σ) β) (s : σ) :
    perform (step >>= next) s = match perform step s with
      | (.ok a, s') => perform (next a) s'
      | (.error e, s') => (.error e, s') := by
  show perform (ExceptT.bind step next) s = _
  simp only [perform, ExceptT.bind, ExceptT.run, ExceptT.mk]
  show ((StateT.run step s >>= fun p => StateT.run (ExceptT.bindCont next p.1) p.2) :
    Id (Except ε β × σ)) = _
  rcases StateT.run step s with ⟨a | e, s'⟩ <;> rfl

@[simp] theorem perform_map (f : α → β) (step : ExceptT ε (StateM σ) α) (s : σ) :
    perform (f <$> step) s = ((perform step s).1.map f, (perform step s).2) := by
  rw [map_eq_pure_bind, perform_bind]
  rcases perform step s with ⟨e | a, s'⟩ <;> rfl

/-- A step whose result is not looked at leaves the state that it leaves. -/
theorem snd_perform_bind_pure (step : ExceptT ε (StateM σ) α) (b : β) (s : σ) :
    (perform (step >>= fun _ => pure b) s).2 = (perform step s).2 := by
  rw [perform_bind]
  rcases perform step s with ⟨e | a, s'⟩ <;> rfl

theorem perform_bind_ok {step : ExceptT ε (StateM σ) α} {next : α → ExceptT ε (StateM σ) β}
    {s s' : σ} {a : α} (h : perform step s = (.ok a, s')) :
    perform (step >>= next) s = perform (next a) s' := by
  rw [perform_bind, h]

theorem perform_bind_error {step : ExceptT ε (StateM σ) α} {next : α → ExceptT ε (StateM σ) β}
    {s s' : σ} {e : ε} (h : perform step s = (.error e, s')) :
    perform (step >>= next) s = (.error e, s') := by
  rw [perform_bind, h]

/-- Two steps in a row come to a value exactly when both do. -/
theorem perform_bind_eq_ok_iff {step : ExceptT ε (StateM σ) α}
    {next : α → ExceptT ε (StateM σ) β} {s s'' : σ} {b : β} :
    perform (step >>= next) s = (.ok b, s'') ↔
      ∃ a s', perform step s = (.ok a, s') ∧ perform (next a) s' = (.ok b, s'') := by
  rw [perform_bind]
  rcases perform step s with ⟨e | a, s'⟩
  · simp
  · constructor
    · exact fun h => ⟨a, s', rfl, h⟩
    · rintro ⟨a, s', h, hnext⟩
      cases h
      exact hnext

@[simp] theorem perform_lift (step : StateM σ α) (s : σ) :
    perform (ExceptT.lift step : ExceptT ε (StateM σ) α) s =
      (.ok (step.run s).1, (step.run s).2) := rfl

/-! ### Results -/

/-- One result after another is a value exactly when both are. -/
theorem bind_eq_ok_iff {x : Except ε α} {f : α → Except ε β} {b : β} :
    (x >>= f) = .ok b ↔ ∃ a, x = .ok a ∧ f a = .ok b := by
  cases x with
  | error e => exact ⟨fun h => (by cases h), fun ⟨a, h, _⟩ => (by cases h)⟩
  | ok a => exact ⟨fun h => ⟨a, rfl, h⟩, fun ⟨a', h, h'⟩ => (by cases h; exact h')⟩

/-- One result after another is a failure exactly when the first is, or the second after it. -/
theorem bind_eq_error_iff {x : Except ε α} {f : α → Except ε β} {e : ε} :
    (x >>= f) = .error e ↔ x = .error e ∨ ∃ a, x = .ok a ∧ f a = .error e := by
  cases x with
  | error e' =>
    refine ⟨fun h => .inl (by cases h; rfl), ?_⟩
    rintro (h | ⟨a, h, -⟩)
    · cases h
      rfl
    · cases h
  | ok a =>
    refine ⟨fun h => .inr ⟨a, rfl, h⟩, ?_⟩
    rintro (h | ⟨a', h, h'⟩)
    · cases h
    · cases h
      exact h'

theorem map_eq_ok_iff {x : Except ε α} {f : α → β} {b : β} :
    x.map f = .ok b ↔ ∃ a, x = .ok a ∧ f a = b := by
  cases x with
  | error e => exact ⟨fun h => (by cases h), fun ⟨a, h, _⟩ => (by cases h)⟩
  | ok a =>
    exact ⟨fun h => ⟨a, rfl, Except.ok.inj h⟩, fun ⟨_, h, h'⟩ => (by cases h; cases h'; rfl)⟩

theorem map_eq_error_iff {x : Except ε α} {f : α → β} {e : ε} :
    x.map f = .error e ↔ x = .error e := by
  cases x with
  | error e' => exact ⟨fun h => (by cases h; rfl), fun h => (by cases h; rfl)⟩
  | ok a => exact ⟨fun h => (by cases h), fun h => (by cases h)⟩

@[simp] theorem mapError_ok (a : α) (f : ε → ε') :
    (Except.ok a : Except ε α).mapError f = .ok a := rfl

@[simp] theorem mapError_error (e : ε) (f : ε → ε') :
    (Except.error e : Except ε α).mapError f = .error (f e) := rfl

theorem mapError_eq_ok_iff {x : Except ε α} {f : ε → ε'} {a : α} :
    x.mapError f = .ok a ↔ x = .ok a := by
  cases x with
  | error e => exact ⟨fun h => (by cases h), fun h => (by cases h)⟩
  | ok a' => exact ⟨fun h => (by cases h; rfl), fun h => (by cases h; rfl)⟩

/-! ### Passes over lists -/

/-- A pass over a list, which may count elements, ends in some way exactly if it does so at an
element and goes on after each one before. -/
theorem pass_iff_exists_split {α : Type} {ends goesOn : α → Prop} {P : Nat → List α → Prop}
    (nil : ∀ n, ¬ P n [])
    (cons : ∀ n a as, P n (a :: as) ↔ ends a ∨ goesOn a ∧ P (n + 1) as) (n : Nat) (as : List α) :
    P n as ↔ ∃ before a after, as = before ++ a :: after ∧ (∀ b ∈ before, goesOn b) ∧ ends a := by
  induction as generalizing n with
  | nil =>
    refine iff_of_false (nil n) ?_
    rintro ⟨before, a, after, split, -⟩
    exact absurd split.symm (List.append_ne_nil_of_right_ne_nil _ (List.cons_ne_nil _ _))
  | cons a as ih =>
    rw [cons, ih]
    constructor
    · rintro (here | ⟨on, before, a', after, rfl, others, there⟩)
      · exact ⟨[], a, as, rfl, fun _ hb => (by cases hb), here⟩
      · exact ⟨a :: before, a', after, rfl, List.forall_mem_cons.2 ⟨on, others⟩, there⟩
    · rintro ⟨_ | ⟨b, before⟩, a', after, split, others, there⟩
      · cases split
        exact .inl there
      · cases split
        rw [List.forall_mem_cons] at others
        exact .inr ⟨others.1, before, a', after, rfl, others.2, there⟩

section

variable {f : α → Except ε β}

/-- Results are values exactly if each of them is. -/
theorem mapM_eq_ok_iff {as : List α} {bs : List β} :
    as.mapM f = .ok bs ↔ List.Forall₂ (fun a b => f a = .ok b) as bs := by
  induction as generalizing bs with
  | nil =>
    rw [List.mapM_nil, List.forall₂_nil_left_iff]
    exact ⟨fun e => (Except.ok.inj e).symm, fun e => by rw [e]; rfl⟩
  | cons a as ih =>
    rw [List.mapM_cons, bind_eq_ok_iff, List.forall₂_cons_left_iff]
    constructor
    · rintro ⟨b, hb, e⟩
      obtain ⟨bs, hbs, e⟩ := bind_eq_ok_iff.1 e
      cases e
      exact ⟨b, bs, hb, ih.1 hbs, rfl⟩
    · rintro ⟨b, bs, hb, hbs, rfl⟩
      exact ⟨b, hb, bind_eq_ok_iff.2 ⟨bs, ih.2 hbs, rfl⟩⟩

/-- Each of the values comes from an element. -/
theorem exists_of_mem_mapM {as : List α} {bs : List β} (h : as.mapM f = .ok bs) {b : β}
    (hb : b ∈ bs) : ∃ a ∈ as, f a = .ok b := by
  induction mapM_eq_ok_iff.1 h with
  | nil => cases hb
  | @cons a b' as bs first each ih =>
    rcases List.mem_cons.1 hb with rfl | hb
    · exact ⟨a, List.mem_cons_self, first⟩
    · obtain ⟨a', ha', value⟩ := ih (mapM_eq_ok_iff.2 each) hb
      exact ⟨a', List.mem_cons_of_mem a ha', value⟩

/-- The first result that is a failure is the failure of all. -/
theorem mapM_eq_error_iff {as : List α} {e : ε} :
    as.mapM f = .error e ↔ ∃ before a after, as = before ++ a :: after ∧
      (∀ b ∈ before, ∃ y, f b = .ok y) ∧ f a = .error e := by
  have step (a : α) (as : List α) : (a :: as).mapM f = .error e ↔
      f a = .error e ∨ (∃ y, f a = .ok y) ∧ as.mapM f = .error e := by
    rw [List.mapM_cons, bind_eq_error_iff]
    refine or_congr_right ⟨?_, ?_⟩
    · rintro ⟨y, hy, h⟩
      rcases bind_eq_error_iff.1 h with h | ⟨ys, -, h⟩
      · exact ⟨⟨y, hy⟩, h⟩
      · cases h
    · rintro ⟨⟨y, hy⟩, h⟩
      exact ⟨y, hy, bind_eq_error_iff.2 (.inl h)⟩
  exact pass_iff_exists_split (P := fun _ as => as.mapM f = .error e) (fun _ h => by cases h)
    (fun _ => step) 0 as

end

end Mailroom
