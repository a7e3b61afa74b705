import Specs.Sync.Run
import Mathlib.Data.List.Basic

/-!
# Registers with a synchronous reset and an enable

A gate tells, from the inputs of one cycle, whether the cycle resets a block of
registers and, when it does not, whether it enables them.  A cycle that does
neither is idle.  The enabled, un-reset cycles since the last reset are the
steps the block can remember: `Gate.steps` lists them, the latest one first,
and the main result is that a register behind a gate is a fold over that list.

On top of this stand monitors.  A monitor judges the present cycle from the
steps before it; `Gate.verdict` is its output on a trace.  Monitors are closed
under the Boolean connectives, and they cannot see idle cycles: the verdicts of
two traces that differ by inserted idle cycles agree.
-/

namespace Specs.Sync

variable {I I' S : Type*}

/-- The reset and the enable input of a block of registers. -/
structure Gate (I : Type*) where
  rst : I → Bool
  enable : I → Bool

namespace Gate

variable (g : Gate I)

/-- A cycle in which the gate lets the registers load. -/
def IsStep (i : I) : Prop := g.rst i = false ∧ g.enable i = true

/-- A cycle in which the gate makes the registers hold. -/
def IsIdle (i : I) : Prop := g.rst i = false ∧ g.enable i = false

instance (i : I) : Decidable (g.IsStep i) := inferInstanceAs (Decidable (_ ∧ _))

/-- The steps since the last reset, before cycle `t`, the latest first. -/
def steps (tr : ℕ → I) : ℕ → List I
  | 0 => []
  | t + 1 =>
      if g.rst (tr t) then [] else
      if g.enable (tr t) then tr t :: steps tr t else steps tr t

@[simp] theorem steps_zero (tr : ℕ → I) : g.steps tr 0 = [] := rfl

theorem steps_succ_of_rst {tr : ℕ → I} {t : ℕ} (h : g.rst (tr t) = true) :
    g.steps tr (t + 1) = [] := by simp [steps, h]

theorem steps_succ_of_isStep {tr : ℕ → I} {t : ℕ} (h : g.IsStep (tr t)) :
    g.steps tr (t + 1) = tr t :: g.steps tr t := by simp [steps, h.1, h.2]

theorem steps_succ_of_isIdle {tr : ℕ → I} {t : ℕ} (h : g.IsIdle (tr t)) :
    g.steps tr (t + 1) = g.steps tr t := by simp [steps, h.1, h.2]

theorem steps_eq_of_idle {tr : ℕ → I} {a b : ℕ} (hab : a ≤ b)
    (h : ∀ u, a ≤ u → u < b → g.IsIdle (tr u)) :
    g.steps tr b = g.steps tr a := by
  induction b, hab using Nat.le_induction with
  | base => rfl
  | succ b hab ih =>
      have hidle : g.IsIdle (tr b) := h b hab (Nat.lt_succ_self b)
      rw [g.steps_succ_of_isIdle hidle]
      apply ih
      intro u hau hub
      exact h u hau (hub.trans (Nat.lt_succ_self b))

theorem isStep_of_mem_steps {tr : ℕ → I} {t : ℕ} {i : I}
    (hi : i ∈ g.steps tr t) : g.IsStep i := by
  induction t with
  | zero => simp at hi
  | succ t ih =>
      by_cases hr : g.rst (tr t) = true
      · simp [g.steps_succ_of_rst hr] at hi
      · by_cases he : g.enable (tr t) = true
        · have hs : g.IsStep (tr t) := ⟨by simpa using hr, he⟩
          rw [g.steps_succ_of_isStep hs] at hi
          rcases List.mem_cons.mp hi with rfl | hi
          · exact hs
          · exact ih hi
        · have hs : g.IsIdle (tr t) := ⟨by simpa using hr, by simpa using he⟩
          rw [g.steps_succ_of_isIdle hs] at hi
          exact ih hi

/-- Cycle `a` is the latest step before cycle `t`, with no reset since. -/
structure LastStep (tr : ℕ → I) (a t : ℕ) : Prop where
  before : a < t
  isStep : g.IsStep (tr a)
  idle : ∀ u, a < u → u < t → g.IsIdle (tr u)

/-- A step stays the latest one until the next step or reset. -/
theorem steps_of_lastStep {tr : ℕ → I} {a t : ℕ} (h : g.LastStep tr a t) :
    g.steps tr t = tr a :: g.steps tr a := by
  rw [← g.steps_succ_of_isStep h.isStep]
  exact g.steps_eq_of_idle h.before h.idle

theorem exists_lastStep {tr : ℕ → I} {t : ℕ} {p : I} {past : List I}
    (h : g.steps tr t = p :: past) : ∃ a, g.LastStep tr a t ∧ tr a = p := by
  induction t with
  | zero =>
      rw [steps_zero] at h
      cases h
  | succ t ih =>
      by_cases hr : g.rst (tr t) = true
      · rw [g.steps_succ_of_rst hr] at h
        cases h
      · by_cases he : g.enable (tr t) = true
        · have hs : g.IsStep (tr t) := ⟨by simpa using hr, he⟩
          rw [g.steps_succ_of_isStep hs] at h
          obtain ⟨hp, -⟩ := List.cons.inj h
          refine ⟨t, ⟨Nat.lt_succ_self t, hs, ?_⟩, hp⟩
          intro u htu hut
          exact absurd htu (Nat.not_lt.mpr (Nat.le_of_lt_succ hut))
        · have hs : g.IsIdle (tr t) := ⟨by simpa using hr, by simpa using he⟩
          rw [g.steps_succ_of_isIdle hs] at h
          obtain ⟨a, ha, hp⟩ := ih h
          refine ⟨a, ⟨ha.before.trans (Nat.lt_succ_self t), ha.isStep, ?_⟩, hp⟩
          intro u hau hut
          rcases Nat.lt_or_eq_of_le (Nat.le_of_lt_succ hut) with hlt | rfl
          · exact ha.idle u hau hlt
          · exact hs

theorem exists_cons_iff {tr : ℕ → I} {t : ℕ} {P : I → Prop} :
    (∃ p past, g.steps tr t = p :: past ∧ P p) ↔ ∃ a, g.LastStep tr a t ∧ P (tr a) := by
  constructor
  · rintro ⟨p, past, hpast, hp⟩
    obtain ⟨a, ha, rfl⟩ := g.exists_lastStep hpast
    exact ⟨a, ha, hp⟩
  · rintro ⟨a, ha, hp⟩
    exact ⟨tr a, g.steps tr a, g.steps_of_lastStep ha, hp⟩

/-- Of two steps with none between them, the first is the latest one before the second
unless there is a reset between them; then there is none. -/
theorem lastStep_iff_of_adjacent {tr : ℕ → I} {a t : ℕ} (ha : g.IsStep (tr a)) (hat : a < t)
    (hnone : ∀ u, a < u → u < t → ¬g.IsStep (tr u)) {c : ℕ} :
    g.LastStep tr c t ↔ c = a ∧ ∀ u, a < u → u < t → g.rst (tr u) = false := by
  constructor
  · rintro ⟨hct, hc, hidle⟩
    rcases lt_trichotomy c a with hlt | rfl | hgt
    · exact absurd ((hidle a hlt hat).2.symm.trans ha.2) Bool.false_ne_true
    · exact ⟨rfl, fun u hcu hut ↦ (hidle u hcu hut).1⟩
    · exact absurd hc (hnone c hgt hct)
  · rintro ⟨rfl, hrst⟩
    refine ⟨hat, ha, ?_⟩
    intro u hcu hut
    have hr := hrst u hcu hut
    refine ⟨hr, ?_⟩
    rw [← Bool.not_eq_true]
    intro he
    exact hnone u hcu hut ⟨hr, he⟩

/-- A property that the step in cycle `t` has and the one in cycle `a` has not is gained
from one step to the next. -/
theorem exists_rise {tr : ℕ → I} {P : I → Prop} {a t : ℕ} (hat : a < t)
    (ha : g.IsStep (tr a)) (hPa : ¬P (tr a)) (ht : g.IsStep (tr t)) (hPt : P (tr t))
    (hrst : ∀ u, a < u → u < t → g.rst (tr u) = false) :
    ∃ c d, a ≤ c ∧ d ≤ t ∧ g.LastStep tr c d ∧ g.IsStep (tr d) ∧ ¬P (tr c) ∧ P (tr d) := by
  classical
  -- The last step without the property, and the first step after it.
  obtain ⟨c, hct, ⟨hac, hc, hPc⟩, hlast⟩ := exists_latest
    (P := fun u ↦ a ≤ u ∧ g.IsStep (tr u) ∧ ¬P (tr u)) ⟨a, hat, le_rfl, ha, hPa⟩
  have hafter : ∃ d, c < d ∧ g.IsStep (tr d) := ⟨t, hct, ht⟩
  obtain ⟨hcd, hd⟩ := Nat.find_spec hafter
  have hdt : Nat.find hafter ≤ t := Nat.find_le ⟨hct, ht⟩
  refine ⟨c, Nat.find hafter, hac, hdt, ⟨hcd, hc, ?_⟩, hd, hPc, ?_⟩
  · intro u hcu hud
    have hr : g.rst (tr u) = false := hrst u (hac.trans_lt hcu) (hud.trans_le hdt)
    have hnone : ¬(c < u ∧ g.IsStep (tr u)) := Nat.find_min hafter hud
    refine ⟨hr, ?_⟩
    rw [← Bool.not_eq_true]
    intro he
    exact hnone ⟨hcu, hr, he⟩
  · by_contra hPd
    rcases Nat.lt_or_eq_of_le hdt with hlt | heq
    · exact hlast _ hcd hlt ⟨hac.trans hcd.le, hd, hPd⟩
    · rw [heq] at hPd
      exact hPd hPt

theorem steps_map (g' : Gate I') (wire : I → I')
    (hrst : ∀ i, g'.rst (wire i) = g.rst i)
    (hen : ∀ i, g'.enable (wire i) = g.enable i) (tr : ℕ → I) (t : ℕ) :
    g'.steps (fun u ↦ wire (tr u)) t = (g.steps tr t).map wire := by
  induction t with
  | zero => rfl
  | succ t ih =>
      simp only [steps, hrst, hen, ih]
      split
      · rfl
      · split <;> rfl

/-! ## Gated registers -/

/-- Next state of a register that is set to `init` by the reset and loads
`load s i` when enabled. -/
def register (init : S) (load : S → I → S) (s : S) (i : I) : S :=
  if g.rst i then init else if g.enable i then load s i else s

/-- After a reset, a part of the state that is a gated register holds the fold of
its load function over the steps since the last reset. -/
theorem run_register_of_rst {S' : Type*} {next : S' → I → S'} (π : S' → S) {init : S}
    {load : S → I → S} (h : ∀ s i, π (next s i) = g.register init load (π s) i)
    (s₀ : S') {tr : ℕ → I} {a t : ℕ} (ha : g.rst (tr a) = true) (hat : a ≤ t) :
    π (run next s₀ tr (t + 1)) =
      (g.steps tr (t + 1)).foldr (fun i s ↦ load s i) init := by
  induction t, hat using Nat.le_induction with
  | base => simp [run_succ, steps, h, register, ha]
  | succ t _ ih =>
      rw [run_succ, h, ih, register]
      conv_rhs => rw [steps]
      split
      · rfl
      · split <;> rfl

theorem run_register {S' : Type*} {next : S' → I → S'} (π : S' → S) {init : S}
    {load : S → I → S} (h : ∀ s i, π (next s i) = g.register init load (π s) i)
    (s₀ : S') {tr : ℕ → I} (hreset : g.rst (tr 0) = true) (t : ℕ) :
    π (run next s₀ tr (t + 1)) =
      (g.steps tr (t + 1)).foldr (fun i s ↦ load s i) init :=
  g.run_register_of_rst π h s₀ hreset (Nat.zero_le t)

end Gate

structure ResetTrace (g : Gate I) where
  cycle : ℕ → I
  reset_first : g.rst (cycle 0) = true

instance (g : Gate I) : CoeFun (ResetTrace g) (fun _ ↦ ℕ → I) := ⟨ResetTrace.cycle⟩

/-! ## Monitors -/

abbrev Monitor (I : Type*) := List I → I → Bool

namespace Gate

variable (g : Gate I)

/-- The output of a monitor: silent in reset and in idle cycles. -/
def verdict (m : Monitor I) (tr : ℕ → I) (t : ℕ) : Bool :=
  !g.rst (tr t) && g.enable (tr t) && m (g.steps tr t) (tr t)

theorem verdict_eq_true_iff {m : Monitor I} {tr : ℕ → I} {t : ℕ} :
    g.verdict m tr t = true ↔
      g.IsStep (tr t) ∧ m (g.steps tr t) (tr t) = true := by
  simp [verdict, IsStep]

theorem verdict_of_isStep {m : Monitor I} {tr : ℕ → I} {t : ℕ}
    (h : g.IsStep (tr t)) : g.verdict m tr t = m (g.steps tr t) (tr t) := by
  simp [verdict, h.1, h.2]

theorem verdict_of_not_isStep {m : Monitor I} {tr : ℕ → I} {t : ℕ}
    (h : ¬g.IsStep (tr t)) : g.verdict m tr t = false := by
  by_contra hm
  have hfires : g.verdict m tr t = true := Bool.not_eq_false _ ▸ hm
  exact h (g.verdict_eq_true_iff.mp hfires).1

/-- A monitor that says nothing without a previous step reports steps that have one. -/
theorem verdict_iff_of_nil {m : Monitor I} (hnil : ∀ i, m [] i = false) {tr : ℕ → I} {t : ℕ} :
    g.verdict m tr t = true ↔
      g.IsStep (tr t) ∧ ∃ p past, g.steps tr t = p :: past ∧ m (p :: past) (tr t) = true := by
  rw [verdict_eq_true_iff]
  apply and_congr_right
  intro _
  constructor
  · intro hm
    cases hpast : g.steps tr t with
    | nil =>
        rw [hpast, hnil] at hm
        exact absurd hm Bool.false_ne_true
    | cons p past => exact ⟨p, past, rfl, hpast ▸ hm⟩
  · rintro ⟨p, past, hpast, hm⟩
    rwa [hpast]

theorem verdict_iff_of_lastStep {m : Monitor I} {R : I → I → Prop}
    (hnil : ∀ i, m [] i = false) (hcons : ∀ p past i, m (p :: past) i = true ↔ R p i)
    {tr : ℕ → I} {t : ℕ} :
    g.verdict m tr t = true ↔ g.IsStep (tr t) ∧ ∃ a, g.LastStep tr a t ∧ R (tr a) (tr t) := by
  rw [g.verdict_iff_of_nil hnil]
  simp only [hcons]
  exact and_congr_right fun _ ↦ g.exists_cons_iff

theorem verdict_or (m m' : Monitor I) (tr : ℕ → I) (t : ℕ) :
    (g.verdict m tr t || g.verdict m' tr t) =
      g.verdict (fun past i ↦ m past i || m' past i) tr t := by
  cases hr : g.rst (tr t) <;> cases he : g.enable (tr t) <;> simp [verdict, hr, he]

theorem verdict_map (g' : Gate I') (wire : I → I')
    (hrst : ∀ i, g'.rst (wire i) = g.rst i)
    (hen : ∀ i, g'.enable (wire i) = g.enable i) (m : Monitor I')
    (tr : ℕ → I) (t : ℕ) :
    g'.verdict m (fun u ↦ wire (tr u)) t =
      g.verdict (fun past i ↦ m (past.map wire) (wire i)) tr t := by
  simp [verdict, hrst, hen, g.steps_map g' wire hrst hen]

/-- Two traces with the same resets and the same enabled cycles that differ in idle
cycles only. -/
structure SameSteps (tr tr' : ℕ → I) : Prop where
  rst_eq : ∀ t, g.rst (tr' t) = g.rst (tr t)
  enable_eq : ∀ t, g.enable (tr' t) = g.enable (tr t)
  step_eq : ∀ t, g.IsStep (tr t) → tr' t = tr t

theorem SameSteps.steps_eq {g : Gate I} {tr tr' : ℕ → I} (h : g.SameSteps tr tr') (t : ℕ) :
    g.steps tr' t = g.steps tr t := by
  induction t with
  | zero => rfl
  | succ t ih =>
      rw [steps, steps, h.rst_eq, h.enable_eq, ih]
      split
      · rfl
      · rename_i hr
        split
        · rename_i he
          have hstep : g.IsStep (tr t) := ⟨by simpa using hr, he⟩
          rw [h.step_eq t hstep]
        · rfl

theorem SameSteps.verdict_eq {g : Gate I} {tr tr' : ℕ → I} (h : g.SameSteps tr tr')
    (m : Monitor I) (t : ℕ) : g.verdict m tr' t = g.verdict m tr t := by
  by_cases hstep : g.IsStep (tr t)
  · rw [verdict, verdict, h.steps_eq, h.step_eq t hstep]
  · have hstep' : ¬g.IsStep (tr' t) := by
      rw [IsStep, h.rst_eq, h.enable_eq]
      exact hstep
    rw [g.verdict_of_not_isStep hstep, g.verdict_of_not_isStep hstep']

end Gate

/-! ## Removing idle cycles -/

namespace Gate

variable (g : Gate I) {next next' : S → I → S}

/-- The cycles before `t` that are not idle, in order. -/
def active (tr : ℕ → I) (t : ℕ) : List I :=
  ((List.range t).map tr).filter fun i ↦ g.rst i || g.enable i

theorem active_succ_of_isIdle {tr : ℕ → I} {t : ℕ} (h : g.IsIdle (tr t)) :
    g.active tr (t + 1) = g.active tr t := by
  simp [active, List.range_succ, h.1, h.2]

theorem active_succ_of_not_isIdle {tr : ℕ → I} {t : ℕ} (h : ¬g.IsIdle (tr t)) :
    g.active tr (t + 1) = g.active tr t ++ [tr t] := by
  have hkept : (g.rst (tr t) || g.enable (tr t)) = true := by
    by_contra hnot
    have hboth := Bool.or_eq_false_iff.mp (Bool.eq_false_iff.mpr hnot)
    exact h ⟨hboth.1, hboth.2⟩
  simp [active, List.range_succ, hkept]

/-- A circuit that holds in idle cycles and otherwise steps like another one runs like
the other one on the trace without its idle cycles. -/
theorem run_eq_foldl_active (hidle : ∀ s i, g.IsIdle i → next s i = s)
    (hactive : ∀ s i, ¬g.IsIdle i → next s i = next' s i) (s₀ : S) (tr : ℕ → I) (t : ℕ) :
    run next s₀ tr t = (g.active tr t).foldl next' s₀ := by
  induction t with
  | zero => rfl
  | succ t ih =>
      rw [run_succ, ih]
      by_cases h : g.IsIdle (tr t)
      · rw [g.active_succ_of_isIdle h, hidle _ _ h]
      · rw [g.active_succ_of_not_isIdle h, hactive _ _ h, List.foldl_append]
        rfl

/-- Two runs over a trace that contains a reset end alike. -/
theorem foldl_eq_of_rst (hrst : ∀ s s' i, g.rst i = true → next' s i = next' s' i)
    {past : List I} (h : ∃ i ∈ past, g.rst i = true) (s s' : S) :
    past.foldl next' s = past.foldl next' s' := by
  induction past generalizing s s' with
  | nil => simp at h
  | cons i past ih =>
      by_cases hi : g.rst i = true
      · rw [List.foldl_cons, List.foldl_cons, hrst s s' i hi]
      · obtain ⟨j, hj, hr⟩ := h
        rcases List.mem_cons.mp hj with rfl | hj
        · exact absurd hr hi
        · exact ih ⟨j, hj, hr⟩ _ _

theorem mem_active {tr : ℕ → I} {a t : ℕ} (hat : a < t) (ha : g.rst (tr a) = true) :
    tr a ∈ g.active tr t := by
  rw [active, List.mem_filter]
  refine ⟨List.mem_map_of_mem (List.mem_range.mpr hat), ?_⟩
  rw [ha, Bool.true_or]

end Gate

/-! ## Inserting idle cycles -/

/-- The trace `tr'` is `tr` with idle cycles inserted after its first cycle:
`pos t` is where cycle `t` of `tr` stands in `tr'`. -/
structure StallInsertion (g : Gate I) (tr tr' : ℕ → I) where
  pos : ℕ → ℕ
  pos_zero : pos 0 = 0
  strictMono : StrictMono pos
  kept : ∀ t, tr' (pos t) = tr t
  inserted : ∀ u, (∀ t, pos t ≠ u) → g.IsIdle (tr' u)

namespace StallInsertion

variable {g : Gate I} {tr tr' : ℕ → I} (st : StallInsertion g tr tr')
include st

theorem ne_pos_of_between {t u : ℕ} (hlo : st.pos t < u)
    (hhi : u < st.pos (t + 1)) (v : ℕ) : st.pos v ≠ u := by
  rintro rfl
  have htv : t < v := st.strictMono.lt_iff_lt.mp hlo
  have hvt : v < t + 1 := st.strictMono.lt_iff_lt.mp hhi
  exact Nat.lt_irrefl t (htv.trans_le (Nat.le_of_lt_succ hvt))

theorem steps_pos (t : ℕ) : g.steps tr' (st.pos t) = g.steps tr t := by
  induction t with
  | zero => rw [st.pos_zero, Gate.steps_zero, Gate.steps_zero]
  | succ t ih =>
      have hlt : st.pos t < st.pos (t + 1) := st.strictMono (Nat.lt_succ_self t)
      have hidle : g.steps tr' (st.pos (t + 1)) = g.steps tr' (st.pos t + 1) := by
        apply g.steps_eq_of_idle hlt
        intro u hlo hhi
        exact st.inserted u (st.ne_pos_of_between hlo hhi)
      rw [hidle, Gate.steps, Gate.steps, st.kept, ih]

theorem verdict_pos (m : Monitor I) (t : ℕ) :
    g.verdict m tr' (st.pos t) = g.verdict m tr t := by
  rw [Gate.verdict, Gate.verdict, st.steps_pos, st.kept]

end StallInsertion

end Specs.Sync
