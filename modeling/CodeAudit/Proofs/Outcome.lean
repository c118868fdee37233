import Mathlib.Tactic.Lemma

/-! Computations that may fail, alone and while they act on a state. -/
namespace CodeAudit.Outcome

variable {ε ε' α β : Type}

lemma bind_eq_ok {x : Except ε α} {f : α → Except ε β} {b : β} :
    x >>= f = .ok b ↔ ∃ a, x = .ok a ∧ f a = .ok b := by
  constructor
  · intro h
    cases x with
    | error e => cases h
    | ok a => exact ⟨a, rfl, h⟩
  · rintro ⟨a, rfl, h⟩
    exact h

lemma pure_eq_ok {a b : α} : (pure a : Except ε α) = .ok b ↔ a = b :=
  ⟨fun h => Except.ok.inj h, fun h => congrArg _ h⟩

lemma map_eq_ok {x : Except ε α} {f : α → β} {b : β} : x.map f = .ok b ↔ ∃ a, x = .ok a ∧ f a = b := by
  constructor
  · intro h
    cases x with
    | error e => cases h
    | ok a => exact ⟨a, rfl, Except.ok.inj h⟩
  · rintro ⟨a, rfl, rfl⟩
    rfl

lemma isOk_iff (x : Except ε α) : x.isOk = true ↔ ∃ a, x = .ok a := by
  cases x <;> simp [Except.isOk, Except.toBool]

lemma mapError_error (e : ε) (f : ε → ε') : (Except.error e : Except ε α).mapError f = .error (f e) := rfl

lemma mapError_ok (a : α) (f : ε → ε') : (Except.ok a : Except ε α).mapError f = .ok a := rfl

lemma mapError_eq_ok {x : Except ε α} {f : ε → ε'} {a : α} : x.mapError f = .ok a ↔ x = .ok a := by
  cases x with
  | error e => exact ⟨by rintro ⟨⟩, by rintro ⟨⟩⟩
  | ok b => exact ⟨fun h => congrArg _ (Except.ok.inj h), fun h => congrArg _ (Except.ok.inj h)⟩

lemma not_exists_ok_iff {x : Except ε α} : (¬ ∃ a, x = .ok a) ↔ ∃ e, x = .error e := by
  cases x with
  | error e => simp
  | ok a => simp

/-- What a run over a list that does not fail gives, each step gave for one of the items. -/
lemma mem_of_mapM_eq_ok {f : α → Except ε β} {l : List α} {out : List β} {b : β} (h : l.mapM f = .ok out)
    (hb : b ∈ out) : ∃ a ∈ l, f a = .ok b := by
  induction l generalizing out with
  | nil =>
    obtain rfl := pure_eq_ok.mp h
    exact absurd hb List.not_mem_nil
  | cons a rest ih =>
    rw [List.mapM_cons] at h
    obtain ⟨b', hb', h⟩ := bind_eq_ok.mp h
    obtain ⟨later, hlater, h⟩ := bind_eq_ok.mp h
    obtain rfl := pure_eq_ok.mp h
    rcases List.mem_cons.mp hb with rfl | hb
    · exact ⟨a, List.mem_cons_self, hb'⟩
    · obtain ⟨a', ha', hfa⟩ := ih hlater hb
      exact ⟨a', List.mem_cons_of_mem _ ha', hfa⟩

/-- Each step of a run over a list that does not fail gives one of its results. -/
lemma exists_mem_of_mapM_eq_ok {f : α → Except ε β} {l : List α} {out : List β} {a : α} (h : l.mapM f = .ok out)
    (ha : a ∈ l) : ∃ b ∈ out, f a = .ok b := by
  induction l generalizing out with
  | nil => exact absurd ha List.not_mem_nil
  | cons a' rest ih =>
    rw [List.mapM_cons] at h
    obtain ⟨b, hb, h⟩ := bind_eq_ok.mp h
    obtain ⟨later, hlater, h⟩ := bind_eq_ok.mp h
    obtain rfl := pure_eq_ok.mp h
    rcases List.mem_cons.mp ha with rfl | ha
    · exact ⟨b, List.mem_cons_self, hb⟩
    · obtain ⟨b', hb', hfa⟩ := ih hlater ha
      exact ⟨b', List.mem_cons_of_mem _ hb', hfa⟩

/-- A run over a list that does not fail gives what its steps give, one by one. -/
lemma eq_map_of_mapM_eq_ok {f : α → Except ε β} {g : α → β} {l : List α} {out : List β} (h : l.mapM f = .ok out)
    (hg : ∀ a ∈ l, ∀ b, f a = .ok b → b = g a) : out = l.map g := by
  induction l generalizing out with
  | nil => exact (pure_eq_ok.mp h).symm
  | cons a rest ih =>
    rw [List.mapM_cons] at h
    obtain ⟨b, hb, h⟩ := bind_eq_ok.mp h
    obtain ⟨later, hlater, h⟩ := bind_eq_ok.mp h
    obtain rfl := pure_eq_ok.mp h
    obtain ⟨hfirst, hrest⟩ := List.forall_mem_cons.mp hg
    rw [List.map_cons, ← hfirst b hb, ← ih hlater hrest]

/-- A first step and what follows it give a value when both do. -/
lemma exists_bind_iff {x : Except ε α} {f : α → Except ε β} :
    (∃ b, x >>= f = .ok b) ↔ ∃ a, x = .ok a ∧ ∃ b, f a = .ok b := by
  simp only [bind_eq_ok]
  constructor
  · rintro ⟨b, a, ha, hb⟩
    exact ⟨a, ha, b, hb⟩
  · rintro ⟨a, ha, b, hb⟩
    exact ⟨b, a, ha, hb⟩

/-- A run over a list gives a value when each of its steps does. -/
lemma exists_mapM_iff {f : α → Except ε β} {l : List α} :
    (∃ out, l.mapM f = .ok out) ↔ ∀ a ∈ l, ∃ b, f a = .ok b := by
  induction l with
  | nil => exact iff_of_true ⟨[], rfl⟩ (by simp)
  | cons a rest ih =>
    rw [List.mapM_cons, exists_bind_iff, List.forall_mem_cons, ← ih]
    constructor
    · rintro ⟨b, hb, hrest⟩
      obtain ⟨later, hlater, _⟩ := exists_bind_iff.mp hrest
      exact ⟨⟨b, hb⟩, later, hlater⟩
    · rintro ⟨⟨b, hb⟩, later, hlater⟩
      exact ⟨b, hb, exists_bind_iff.mpr ⟨later, hlater, _, rfl⟩⟩

/-- What becomes of the items of a run over a list becomes of them one by one. -/
lemma mapM_map_eq {γ : Type} {f : α → Except ε β} {g : β → γ} (l : List α) :
    (l.mapM f).map (List.map g) = l.mapM fun a => (f a).map g := by
  induction l with
  | nil => rfl
  | cons a rest ih =>
    rw [List.mapM_cons, List.mapM_cons, ← ih]
    cases f a with
    | error e => rfl
    | ok b => cases rest.mapM f <;> rfl

lemma mapM_congr {f g : α → Except ε β} {l : List α} (h : ∀ a ∈ l, f a = g a) : l.mapM f = l.mapM g := by
  induction l with
  | nil => rfl
  | cons a rest ih =>
    obtain ⟨ha, hrest⟩ := List.forall_mem_cons.mp h
    rw [List.mapM_cons, List.mapM_cons, ha, ih hrest]

section Action

variable {σ : Type} {s : σ}

lemma run_lift (x : Except ε α) : ((liftM x : ExceptT ε (StateM σ) α).run : StateM σ _) s = (x, s) := by
  cases x with
  | error e => rfl
  | ok a => rfl

lemma run_lift_ok_bind (a : α) (f : α → ExceptT ε (StateM σ) β) :
    ((liftM (Except.ok a : Except ε α) >>= f).run : StateM σ _) s = (f a).run s := rfl

lemma run_lift_error_bind (e : ε) (f : α → ExceptT ε (StateM σ) β) :
    ((liftM (Except.error e : Except ε α) >>= f).run : StateM σ _) s = (.error e, s) := rfl

lemma run_get_bind (f : σ → ExceptT ε (StateM σ) β) : ((get >>= f).run : StateM σ _) s = (f s).run s := rfl

lemma run_set_bind (t : σ) (f : PUnit → ExceptT ε (StateM σ) β) :
    ((set t >>= f).run : StateM σ _) s = (f ⟨⟩).run t := rfl

lemma run_bind (x : ExceptT ε (StateM σ) α) (f : α → ExceptT ε (StateM σ) β) :
    ((x >>= f).run : StateM σ _) s = ExceptT.bindCont f ((x.run : StateM σ _) s).1 ((x.run : StateM σ _) s).2 := rfl

lemma run_bind_eq_ok {x : ExceptT ε (StateM σ) α} {f : α → ExceptT ε (StateM σ) β} {b : β} :
    (((x >>= f).run : StateM σ _) s).1 = .ok b ↔
      ∃ a, ((x.run : StateM σ _) s).1 = .ok a ∧ (((f a).run : StateM σ _) ((x.run : StateM σ _) s).2).1 = .ok b := by
  rw [run_bind]
  cases ((x.run : StateM σ _) s).1 with
  | error e => exact iff_of_false (fun h => by cases h) fun ⟨a, h, _⟩ => (by cases h)
  | ok a => simp only [Except.ok.injEq, exists_eq_left', ExceptT.bindCont]; rfl

lemma run_bind_of_ok {x : ExceptT ε (StateM σ) α} {f : α → ExceptT ε (StateM σ) β} {a : α} {t : σ}
    (h : (x.run : StateM σ _) s = (.ok a, t)) : ((x >>= f).run : StateM σ _) s = (f a).run t := by
  rw [run_bind, h]
  rfl

lemma run_bind_of_error {x : ExceptT ε (StateM σ) α} {f : α → ExceptT ε (StateM σ) β} {e : ε} {t : σ}
    (h : (x.run : StateM σ _) s = (.error e, t)) : ((x >>= f).run : StateM σ _) s = (.error e, t) := by
  rw [run_bind, h]
  rfl

lemma run_adapt (f : ε → ε') (x : ExceptT ε (StateM σ) α) :
    ((ExceptT.adapt f x).run : StateM σ _) s =
      (((x.run : StateM σ _) s).1.mapError f, ((x.run : StateM σ _) s).2) := rfl

/-- An action whose result is only worked on. -/
lemma run_bind_pure (x : ExceptT ε (StateM σ) α) (f : α → β) :
    ((x >>= fun a => pure (f a)).run : StateM σ _) s =
      (((x.run : StateM σ _) s).1.map f, ((x.run : StateM σ _) s).2) := by
  rw [run_bind]
  cases ((x.run : StateM σ _) s).1 with
  | error e => rfl
  | ok a => rfl

end Action

end CodeAudit.Outcome
