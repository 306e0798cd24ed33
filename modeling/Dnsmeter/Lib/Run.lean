import Mathlib.Data.List.Forall2
import Mathlib.Data.List.Induction
import Mathlib.Order.Defs.PartialOrder

/-!
# Runs of a step function

`exec step s as`: the steps `as` of a fallible step function taken one after the other from `s`; the
run fails with its first failing step. `AllStates`/`AllSteps` quantify over the states a run passes
through and over its steps with the state each is taken in. `trace step s as`: the run of a total
step function that may put out something at each step, with all it puts out.

* `exec_inv`: an invariant of every step holds at the end of every run.
* `allStates_iff_allSteps`: if from a good state a step leads to a good state exactly when it meets
  a condition, then a run stays in good states exactly when all its steps meet it.
* `trace_inv`: a relation between the state and what was put out so far, kept by every step, holds
  at the end of every run.
* `trace_entries`: with such a relation, what a step puts out is judged by what came before it.
* `trace_inv_timed`: the same for steps that are taken at certain times.
-/

namespace Run

variable {σ α ε : Type} {step : σ → α → Except ε σ}

def exec (step : σ → α → Except ε σ) : σ → List α → Except ε σ
  | s, [] => .ok s
  | s, a :: as => match step s a with
    | .ok s' => exec step s' as
    | .error e => .error e

/-- `P` holds in every state of the run, the first and the last included. -/
def AllStates (step : σ → α → Except ε σ) (P : σ → Prop) (s : σ) (as : List α) : Prop :=
  ∀ pre post t, as = pre ++ post → exec step s pre = .ok t → P t

/-- `Q` holds of every step of the run and the state it is taken in. -/
def AllSteps (step : σ → α → Except ε σ) (Q : σ → α → Prop) (s : σ) (as : List α) : Prop :=
  ∀ pre a post t, as = pre ++ a :: post → exec step s pre = .ok t → Q t a

theorem exec_cons_ok {s t : σ} {a : α} {as : List α} :
    exec step s (a :: as) = .ok t ↔ ∃ s', step s a = .ok s' ∧ exec step s' as = .ok t := by
  simp only [exec]
  cases step s a <;> simp

theorem exec_append_ok {t : σ} : ∀ {l m : List α} {s : σ},
    exec step s (l ++ m) = .ok t ↔ ∃ u, exec step s l = .ok u ∧ exec step u m = .ok t
  | [], m, s => by simp [exec]
  | a :: l, m, s => by
    simp only [List.cons_append, exec_cons_ok, exec_append_ok (l := l)]
    constructor
    · rintro ⟨s', h1, u, h2, h3⟩
      exact ⟨u, ⟨s', h1, h2⟩, h3⟩
    · rintro ⟨u, ⟨s', h1, h2⟩, h3⟩
      exact ⟨s', h1, u, h2, h3⟩

theorem exec_inv {J : σ → Prop} (hJ : ∀ s a s', J s → step s a = .ok s' → J s') :
    ∀ {as : List α} {s t : σ}, J s → exec step s as = .ok t → J t
  | [], s, t, h, he => by cases he; exact h
  | a :: as, s, t, h, he => by
    obtain ⟨s', h1, h2⟩ := exec_cons_ok.1 he
    exact exec_inv hJ (hJ s a s' h h1) h2

/-- **Good runs are the runs of good steps**: `J` is kept by every step; from a state in `I`, a step
stays in `I` exactly when it meets `Q`. -/
theorem allStates_iff_allSteps {J I : σ → Prop} {Q : σ → α → Prop}
    (hJ : ∀ s a s', J s → step s a = .ok s' → J s')
    (hI : ∀ s a s', J s → I s → step s a = .ok s' → (I s' ↔ Q s a)) {as : List α} {s t : σ}
    (hJ0 : J s) (hI0 : I s) (he : exec step s as = .ok t) :
    AllStates step I s as ↔ AllSteps step Q s as := by
  constructor
  · intro h pre a post u has hu
    obtain ⟨u', hu', hrest⟩ := exec_append_ok.1 (has ▸ he)
    cases hu.symm.trans hu'
    obtain ⟨v, hv, -⟩ := exec_cons_ok.1 hrest
    have hIv : I v := h (pre ++ [a]) post v (by simp [has])
      (exec_append_ok.2 ⟨u, hu, exec_cons_ok.2 ⟨v, hv, rfl⟩⟩)
    exact (hI u a v (exec_inv hJ hJ0 hu) (h pre (a :: post) u has hu) hv).1 hIv
  · intro h pre
    -- the steps before the state are good: induction on the prefix from its end
    induction pre using List.reverseRecOn with
    | nil =>
      intro post u _ hu
      cases hu
      exact hI0
    | append_singleton pre a ih =>
      intro post u has hu
      obtain ⟨v, hv, hlast⟩ := exec_append_ok.1 hu
      obtain ⟨u', hstep, hend⟩ := exec_cons_ok.1 hlast
      cases hend
      have has' : as = pre ++ a :: post := by simp [has]
      exact (hI v a u (exec_inv hJ hJ0 hv) (ih (a :: post) v has' hv) hstep).2
        (h pre a post v has' hv)

theorem bind_ok_iff {β γ : Type} {x : Except ε β} {f : β → Except ε γ} {r : γ} :
    (x >>= f) = .ok r ↔ ∃ b, x = .ok b ∧ f b = .ok r := by
  cases x <;> simp [bind, Except.bind]

/-- An invariant of a fallible step holds behind a fold of it. -/
theorem foldlM_inv {J : σ → Prop} (hJ : ∀ s a s', J s → step s a = .ok s' → J s') {as : List α}
    {s t : σ} (hs : J s) (h : as.foldlM step s = .ok t) : J t := by
  induction as generalizing s with
  | nil =>
    cases h
    exact hs
  | cons a as ih =>
    rw [List.foldlM_cons] at h
    obtain ⟨s', h1, h⟩ := bind_ok_iff.1 h
    exact ih (hJ s a s' hs h1) h

/-- A list of fallible computations succeeds iff each of them does. -/
theorem mapM_ok_iff {β : Type} {f : α → Except ε β} {l : List α} {l' : List β} :
    l.mapM f = .ok l' ↔ List.Forall₂ (fun a b => f a = .ok b) l l' := by
  induction l generalizing l' with
  | nil => cases l' <;> simp [pure, Except.pure]
  | cons a l ih =>
    simp only [List.mapM_cons, bind_ok_iff, ih]
    cases l' <;> simp [pure, Except.pure]

theorem mem_of_mapM_ok {β : Type} {f : α → Except ε β} {l : List α} {l' : List β} {b : β}
    (h : l.mapM f = .ok l') (hb : b ∈ l') : ∃ a ∈ l, f a = .ok b := by
  have hall := mapM_ok_iff.1 h
  clear h
  induction hall with
  | nil => cases hb
  | @cons a c l l' hac _ ih =>
    rcases List.mem_cons.1 hb with rfl | hb
    · exact ⟨a, List.mem_cons_self, hac⟩
    · obtain ⟨a', ha', hf⟩ := ih hb
      exact ⟨a', List.mem_cons_of_mem _ ha', hf⟩

theorem ok_of_mapM_ok {β : Type} {f : α → Except ε β} {l : List α} {l' : List β} {a : α}
    (h : l.mapM f = .ok l') (ha : a ∈ l) : ∃ b, f a = .ok b := by
  have hall := mapM_ok_iff.1 h
  clear h
  induction hall with
  | nil => cases ha
  | @cons c b l l' hcb _ ih =>
    rcases List.mem_cons.1 ha with rfl | ha
    · exact ⟨b, hcb⟩
    · exact ih ha

theorem exists_mapM_ok {β : Type} {f : α → Except ε β} : ∀ {l : List α},
    (∀ a ∈ l, ∃ b, f a = .ok b) → ∃ l', l.mapM f = .ok l'
  | [], _ => ⟨[], rfl⟩
  | a :: l, h => by
    obtain ⟨b, hb⟩ := h a List.mem_cons_self
    obtain ⟨l', hl⟩ := exists_mapM_ok fun a' ha' => h a' (List.mem_cons_of_mem a ha')
    exact ⟨b :: l', mapM_ok_iff.2 (.cons hb (mapM_ok_iff.1 hl))⟩

theorem mapM_const {β : Type} {f : α → Except ε β} {b : β} : ∀ {l : List α},
    (∀ a ∈ l, f a = .ok b) → l.mapM f = .ok (List.replicate l.length b)
  | [], _ => rfl
  | a :: l, h => by
    have hl : l.mapM f = .ok (List.replicate l.length b) :=
      mapM_const fun a' ha' => h a' (List.mem_cons_of_mem a ha')
    exact mapM_ok_iff.2 (.cons (h a List.mem_cons_self) (mapM_ok_iff.1 hl))

theorem length_of_mapM_ok {β : Type} {f : α → Except ε β} {l : List α} {l' : List β}
    (h : l.mapM f = .ok l') : l'.length = l.length :=
  (mapM_ok_iff.1 h).length_eq.symm

/-! ## Steps with output -/

section
variable {β : Type} {step : σ → α → σ × Option β}

def trace (step : σ → α → σ × Option β) : σ → List α → σ × List β
  | s, [] => (s, [])
  | s, a :: as =>
    let r := trace step (step s a).1 as
    (r.1, (step s a).2.toList ++ r.2)

theorem trace_append : ∀ (l m : List α) (s : σ), trace step s (l ++ m) =
    ((trace step (trace step s l).1 m).1, (trace step s l).2 ++ (trace step (trace step s l).1 m).2)
  | [], m, s => by simp [trace]
  | a :: l, m, s => by
    simp only [List.cons_append, trace, trace_append l m, List.append_assoc]

theorem trace_state_inv {J : σ → Prop} (hJ : ∀ s a, J s → J (step s a).1) :
    ∀ {as : List α} {s : σ}, J s → J (trace step s as).1
  | [], _, h => h
  | a :: as, s, h => by
    have hrest : J (trace step (step s a).1 as).1 := trace_state_inv hJ (hJ s a h)
    exact hrest

/-- A relation that the steps in `P` keep holds at the end of every run of such steps. -/
theorem trace_inv_of_forall {I : σ → List β → Prop} {P : α → Prop}
    (hstep : ∀ s os a, P a → I s os → I (step s a).1 (os ++ (step s a).2.toList)) :
    ∀ {as : List α} {s : σ} {os : List β}, (∀ a ∈ as, P a) → I s os →
      I (trace step s as).1 (os ++ (trace step s as).2)
  | [], s, os, _, h => by simpa [trace] using h
  | a :: as, s, os, hP, h => by
    have hrest : I (trace step (step s a).1 as).1
        ((os ++ (step s a).2.toList) ++ (trace step (step s a).1 as).2) :=
      trace_inv_of_forall hstep (fun b hb => hP b (List.mem_cons_of_mem a hb))
        (hstep s os a (hP a List.mem_cons_self) h)
    simpa only [trace, List.append_assoc] using hrest

theorem trace_inv {I : σ → List β → Prop}
    (hstep : ∀ s os a, I s os → I (step s a).1 (os ++ (step s a).2.toList)) {as : List α} {s : σ}
    {os : List β} (h : I s os) : I (trace step s as).1 (os ++ (trace step s as).2) :=
  trace_inv_of_forall (P := fun _ => True) (fun s os a _ => hstep s os a) (fun _ _ => trivial) h

/-- A run from the start to its end `e`, with all that it put out. -/
theorem trace_inv_of_eq {I : σ → List β → Prop}
    (hstep : ∀ s os a, I s os → I (step s a).1 (os ++ (step s a).2.toList)) {as : List α} {s e : σ}
    {out : List β} (hs : I s []) (h : trace step s as = (e, out)) : I e out := by
  have hrun : I (trace step s as).1 ([] ++ (trace step s as).2) := trace_inv hstep hs
  rwa [h, List.nil_append] at hrun

/-- An entry of a log that has grown by one step: an old one, or the new one. -/
theorem concat_eq_position {os pre post : List β} {b : β} {o : Option β}
    (h : os ++ o.toList = pre ++ b :: post) :
    (∃ post', os = pre ++ b :: post' ∧ post = post' ++ o.toList) ∨
      pre = os ∧ o = some b ∧ post = [] := by
  cases o with
  | none =>
    rw [Option.toList_none, List.append_nil] at h
    exact .inl ⟨post, h, (List.append_nil post).symm⟩
  | some c =>
    rw [Option.toList_some] at h
    rcases List.eq_nil_or_concat post with rfl | ⟨post, d, rfl⟩
    · obtain ⟨rfl, hcb⟩ := List.append_inj' h rfl
      cases hcb
      exact .inr ⟨rfl, rfl, rfl⟩
    · rw [List.concat_eq_append, ← List.cons_append, ← List.append_assoc] at h
      obtain ⟨rfl, hcd⟩ := List.append_inj' h rfl
      cases hcd
      exact .inl ⟨post, rfl, List.concat_eq_append⟩

/-- One entry more that is judged by the output before it. -/
theorem entries_concat {G : List β → β → Prop} {os : List β} {o : Option β}
    (hG : ∀ pre b post, os = pre ++ b :: post → G pre b) (ho : ∀ b, o = some b → G os b) :
    ∀ pre b post, os ++ o.toList = pre ++ b :: post → G pre b := by
  intro pre b post hpos
  rcases concat_eq_position hpos with ⟨post', hos, -⟩ | ⟨rfl, hb, -⟩
  · exact hG pre b post' hos
  · exact ho b hb

/-- Every entry of the output is what the invariant says of the output before it. -/
theorem trace_entries {I : σ → List β → Prop} {G : List β → β → Prop}
    (hstep : ∀ s os a, I s os → I (step s a).1 (os ++ (step s a).2.toList))
    (hentry : ∀ s os a b, I s os → (step s a).2 = some b → G os b) {as : List α} {s e : σ}
    {out : List β} (hs : I s []) (h : trace step s as = (e, out)) :
    I e out ∧ ∀ pre b post, out = pre ++ b :: post → G pre b := by
  refine trace_inv_of_eq (I := fun s os => I s os ∧ ∀ pre b post, os = pre ++ b :: post → G pre b)
    ?_ ⟨hs, fun pre b post hnil => by simp at hnil⟩ h
  rintro s os a ⟨hI, hG⟩
  exact ⟨hstep s os a hI, entries_concat hG fun b hb => hentry s os a b hI hb⟩

end

/-! ## Steps with a clock -/

section
variable {K β : Type} [Preorder K] {step : σ → K × α → σ × Option β}

/-- **Runs in which the time never goes back**: a relation between the state, the time and the output
that lasts while time goes by and that the steps in `P` keep holds at every time from the last step
on. -/
theorem trace_inv_timed {I : σ → K → List β → Prop} {P : α → Prop}
    (hmono : ∀ s t t' os, t ≤ t' → I s t os → I s t' os)
    (hstep : ∀ s t os a, P a → I s t os → I (step s (t, a)).1 t (os ++ (step s (t, a)).2.toList)) :
    ∀ {as : List (K × α)} {s : σ} {t t' : K} {os : List β}, (∀ a ∈ as, P a.2) →
      (t :: as.map Prod.fst).Pairwise (· ≤ ·) → (∀ c ∈ t :: as.map Prod.fst, c ≤ t') → I s t os →
        I (trace step s as).1 t' (os ++ (trace step s as).2)
  | [], s, t, t', os, _, _, hle, h => by
    have hend : I s t' os := hmono s t t' os (hle t List.mem_cons_self) h
    simpa [trace] using hend
  | (c, a) :: as, s, t, t', os, hP, hsorted, hle, h => by
    obtain ⟨hfirst, hsorted⟩ := List.pairwise_cons.1 hsorted
    have hc : I s c os := hmono s t c os (hfirst c List.mem_cons_self) h
    have hrest : I (trace step (step s (c, a)).1 as).1 t'
        ((os ++ (step s (c, a)).2.toList) ++ (trace step (step s (c, a)).1 as).2) :=
      trace_inv_timed hmono hstep (fun b hb => hP b (List.mem_cons_of_mem _ hb)) hsorted
        (fun d hd => hle d (List.mem_cons_of_mem t hd))
        (hstep s c os a (hP (c, a) List.mem_cons_self) hc)
    simpa only [trace, List.append_assoc] using hrest

/-- A run from a start at any time. -/
theorem trace_inv_timed_of_eq {I : σ → K → List β → Prop}
    (hmono : ∀ s t t' os, t ≤ t' → I s t os → I s t' os)
    (hstep : ∀ s t os a, I s t os → I (step s (t, a)).1 t (os ++ (step s (t, a)).2.toList))
    {as : List (K × α)} {s e : σ} {out : List β} {t' : K} (hs : ∀ t, I s t [])
    (hsorted : (as.map Prod.fst).Pairwise (· ≤ ·)) (hle : ∀ a ∈ as, a.1 ≤ t')
    (h : trace step s as = (e, out)) : I e t' out := by
  cases as with
  | nil =>
    cases h
    exact hs t'
  | cons a as =>
    have hle' : ∀ c ∈ a.1 :: (a :: as).map Prod.fst, c ≤ t' := by
      intro c hc
      rcases List.mem_cons.1 hc with rfl | hc
      · exact hle a List.mem_cons_self
      · obtain ⟨b, hb, rfl⟩ := List.mem_map.1 hc
        exact hle b hb
    have hsorted' : (a.1 :: (a :: as).map Prod.fst).Pairwise (· ≤ ·) := by
      refine List.pairwise_cons.2 ⟨fun c hc => ?_, hsorted⟩
      rcases List.mem_cons.1 hc with rfl | hc
      · exact le_rfl
      · exact (List.pairwise_cons.1 hsorted).1 c hc
    have hrun : I (trace step s (a :: as)).1 t' ([] ++ (trace step s (a :: as)).2) :=
      trace_inv_timed (P := fun _ => True) hmono (fun s t os a _ => hstep s t os a)
        (fun _ _ => trivial) hsorted' hle' (hs a.1)
    rwa [h, List.nil_append] at hrun

end

end Run
