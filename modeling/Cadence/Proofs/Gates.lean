import Cadence.Proofs.Traffic

/-!
# Openings and closings

The window is opened and closed only when nobody is inside. So what happens for an action happens on
one side of every opening and closing (`no_action_straddles`), and what has happened in between,
sorted by action (`Tracks.sorted`), accounts for the statistics that a closing returns
(`Tracks.reports`).
-/

namespace Cadence

variable {M : Type}

open Happening

/-! ## Between openings and closings -/

namespace Traffic

variable {t t' : Traffic M} {x : Happening M} {hs : List (Happening M)}

/-- When the window is opened or closed nobody is inside, and nobody comes in. -/
lemma Step.empty_of_gate {start : Nat} (tracks : Tracks start hs t) (step : t.Step x t')
    (gate : x.isGate = true) : (∀ n, t.inside n = none) ∧ t'.inside = t.inside ∧
      t'.entered = t.entered ∧ t'.world.environment.window.stats = {} := by
  have empty (clear : ∀ n < t.entered, t.inside n = none) (n : Nat) : t.inside n = none := by
    by_cases entered : n < t.entered
    · exact clear n entered
    · exact tracks.inside_of_fresh (.inr (Nat.not_lt.1 entered))
  cases step with
  | openTick clear => exact ⟨empty clear, rfl, rfl, rfl⟩
  | closeTick clear => exact ⟨empty clear, rfl, rfl, rfl⟩
  | _ => cases gate

/-- Between openings and closings deeds alone change the world. -/
lemma Runs.along (runs : t.Runs hs t') (inner : ∀ x ∈ hs, x.isGate = false) :
    t.world.Along (deedsAmong hs) t'.world := by
  induction runs with
  | nil => exact rfl
  | cons first rest ih =>
    obtain ⟨head, tail⟩ := List.forall_mem_cons.1 inner
    have later := ih tail
    cases first with
    | enter | leave => exact later
    | advance | aside => exact ⟨rfl, later⟩
    | openTick | closeTick => cases head

/-- The window stays closed until it is opened. -/
lemma Runs.closed (runs : t.Runs hs t') (unopened : ∀ tick, opened tick ∉ hs)
    (closed : t.world.environment.window.phase = .closed) :
    ∀ d ∈ deedsAmong hs, d.world.environment.window.phase = .closed := by
  induction runs with
  | nil => exact fun _ mem => absurd mem List.not_mem_nil
  | @cons t _ _ x rest first _ ih =>
    have later := ih fun tick mem => unopened tick (List.mem_cons_of_mem x mem)
    cases first with
    | enter | leave => exact later closed
    | @advance n s a next inside =>
      exact List.forall_mem_cons.2 ⟨closed, later ((a.apply_frame t.world).1.phase.trans closed)⟩
    | @aside a apart =>
      exact List.forall_mem_cons.2 ⟨closed, later ((a.apply_frame t.world).1.phase.trans closed)⟩
    | openTick clear tick => exact absurd List.mem_cons_self (unopened tick)
    | closeTick clear => exact later rfl

end Traffic

/-! ## What is done for no action -/

/-- A deed that is no part of an action answers none and notes no refusal. -/
lemma Deed.answers_nothing {d : Deed M} (apart : d.access.isPartOfAction = false) :
    d.performed.answered? = none ∧ d.performed.isRefusal = false := by
  obtain ⟨a, w⟩ := d
  cases a with
  | route | refuse | settle => cases apart
  | _ => exact ⟨rfl, rfl⟩

/-- What is done for no action is accounted for. -/
lemma Accounted.of_apart {ds : List (Deed M)}
    (apart : ∀ d ∈ ds, d.access.isPartOfAction = false) : Accounted ds := by
  have unanswered : answered ds = [] :=
    List.filterMap_eq_nil_iff.2 fun d mem => (Deed.answers_nothing (apart d mem)).1
  rw [Accounted, unanswered]
  refine List.countP_eq_zero.2 fun d mem => ?_
  rw [(Deed.answers_nothing (apart d mem)).2]
  exact Bool.false_ne_true

/-! ## What is told of actions -/

/-- Things that may have numbers, sorted by number. -/
lemma perm_sorted_by {β : Type} (f : β → Option Nat) {l : List β} {ns : List Nat}
    (nodup : ns.Nodup) (covers : ∀ x ∈ l, ∀ n, f x = some n → n ∈ ns) :
    l.Perm (l.filter (fun x => f x = none) ++
      ns.flatMap fun n => l.filter fun x => f x = some n) := by
  induction ns generalizing l with
  | nil =>
    have unnumbered : l.filter (fun x => f x = none) = l := by
      refine List.filter_eq_self.2 fun x mem => decide_eq_true ?_
      exact Option.eq_none_iff_forall_ne_some.2 fun n is => absurd (covers x mem n is) (by simp)
    rw [unnumbered, List.flatMap_nil, List.append_nil]
  | cons n rest ih =>
    obtain ⟨new, nodup⟩ := List.nodup_cons.1 nodup
    have others := ih (l := l.filter fun x => !decide (f x = some n)) nodup fun x mem m is => by
      obtain ⟨mem, other⟩ := List.mem_filter.1 mem
      rcases List.mem_cons.1 (covers x mem m is) with rfl | later
      · simp [is] at other
      · exact later
    have unnumbered : (l.filter fun x => !decide (f x = some n)).filter (fun x => f x = none) =
        l.filter fun x => f x = none := by
      rw [List.filter_filter]
      refine List.filter_congr fun x _ => ?_
      cases f x <;> simp
    have numbered : (rest.flatMap fun m =>
          (l.filter fun x => !decide (f x = some n)).filter fun x => f x = some m) =
        rest.flatMap fun m => l.filter fun x => f x = some m := by
      refine List.flatMap_congr fun m mem => ?_
      rw [List.filter_filter]
      refine List.filter_congr fun x _ => ?_
      by_cases is : f x = some m
      · have other : m ≠ n := fun same => new (same ▸ mem)
        simp [is, other]
      · simp [is]
    rw [unnumbered, numbered] at others
    rw [List.flatMap_cons]
    refine (List.filter_append_perm (fun x => f x = some n) l).symm.trans ?_
    exact (others.append_left _).trans (List.perm_append_comm_assoc _ _ _)

/-- The deeds of a whole course are its path. -/
lemma deedsAmong_wholeCourse (n : Nat) (s : Submission) (path : List (Deed M))
    (r : Except EnvironmentError ActionOutcome) : deedsAmong (wholeCourse n s path r) = path := by
  have own : (path.map (did (some n))).filterMap deed? = path := by
    rw [List.filterMap_map]
    exact List.filterMap_some
  rw [deedsAmong, wholeCourse, List.filterMap_append, List.filterMap_cons_none rfl, own]
  exact List.append_nil path

/-- Nothing but its entry and its leaving is told of an action by what tells of no deed. -/
lemma filterMap_wholeCourse {β : Type} {g : Happening M → Option β}
    (silent : ∀ number d, g (did number d) = none) (n : Nat) (s : Submission)
    (path : List (Deed M)) (r : Except EnvironmentError ActionOutcome) :
    (wholeCourse n s path r).filterMap g =
      (g (entered n s)).toList ++ (g (left n s r)).toList := by
  have own : (path.map (did (some n))).filterMap g = [] := by
    rw [List.filterMap_map]
    exact List.filterMap_eq_nil_iff.2 fun d _ => silent (some n) d
  rw [wholeCourse, List.filterMap_append, List.filterMap_cons, own, List.filterMap_cons]
  cases g (entered n s) <;> cases g (left n s r) <;> rfl

/-- The answer that a deed gives, if it is one that answers an action. -/
def Happening.recorded? (x : Happening M) : Option Answered :=
  x.deed?.bind fun d => d.performed.answered?

/-- The answers to actions are those recorded in what happens. -/
lemma answered_deedsAmong (hs : List (Happening M)) :
    answered (deedsAmong hs) = hs.filterMap recorded? :=
  List.filterMap_filterMap

/-- An action has arrived if it has entered. -/
lemma mem_arrivals {n : Nat} {hs : List (Happening M)} :
    n ∈ (hs.filterMap arrival?).map Prod.fst ↔ ∃ s, entered n s ∈ hs := by
  rw [List.mem_map]
  constructor
  · rintro ⟨⟨n, s⟩, enters, rfl⟩
    obtain ⟨x, enters, is⟩ := List.mem_filterMap.1 enters
    cases x with
    | entered n' s' =>
      cases is
      exact ⟨s, enters⟩
    | _ => cases is
  · rintro ⟨s, enters⟩
    exact ⟨(n, s), List.mem_filterMap.2 ⟨_, enters, rfl⟩, rfl⟩

namespace Tracks

variable {start : Nat} {hs : List (Happening M)} {t : Traffic M}

/-- No action arrives twice. -/
lemma nodup (h : Tracks start hs t) : ((hs.filterMap arrival?).map Prod.fst).Nodup := by
  rw [h.entries]
  exact List.nodup_range'

/-- What happens, sorted by the actions that have entered. -/
lemma sorted (h : Tracks start hs t) :
    hs.Perm (hs.filter (fun x => x.number? = none) ++
      ((hs.filterMap arrival?).map Prod.fst).flatMap fun n => course n hs) := by
  refine perm_sorted_by number? h.nodup fun x mem n number => ?_
  have stands := h.stands n
  have mem : x ∈ course n hs := mem_course.2 ⟨mem, number⟩
  obtain ⟨s, enters⟩ : ∃ s, entered n s ∈ course n hs := by
    generalize course n hs = c, t.inside n = i at stands mem ⊢
    cases stands with
    | outside => cases mem
    | inside => exact ⟨_, List.mem_cons_self⟩
    | gone => exact ⟨_, List.mem_cons_self⟩
  exact mem_arrivals.2 ⟨s, (mem_course.1 enters).1⟩

/-- Where nobody is inside, what is told the same of every whole course is told the same of all that
has happened. -/
lemma perm_of_courses (h : Tracks start hs t) (empty : ∀ n, t.inside n = none) {β : Type}
    {g g' : Happening M → Option β} (silent : ∀ x ∈ hs, x.number? = none → g x = none)
    (silent' : ∀ x ∈ hs, x.number? = none → g' x = none)
    (same : ∀ n s path r, s.thread.Follows path r →
      (wholeCourse n s path r).filterMap g = (wholeCourse n s path r).filterMap g') :
    (hs.filterMap g).Perm (hs.filterMap g') := by
  have told {g : Happening M → Option β} (silent : ∀ x ∈ hs, x.number? = none → g x = none) :
      (hs.filterMap g).Perm (((hs.filterMap arrival?).map Prod.fst).flatMap fun n =>
        (course n hs).filterMap g) := by
    have unnumbered : (hs.filter fun x => x.number? = none).filterMap g = [] := by
      refine List.filterMap_eq_nil_iff.2 fun x mem => ?_
      obtain ⟨mem, number⟩ := List.mem_filter.1 mem
      exact silent x mem (of_decide_eq_true number)
    have sorted := h.sorted.filterMap g
    rwa [List.filterMap_append, unnumbered, List.filterMap_flatMap] at sorted
  refine (told silent).trans (.trans (.of_eq ?_) (told silent').symm)
  refine List.flatMap_congr fun n mem => ?_
  obtain ⟨s, enters⟩ := mem_arrivals.1 mem
  obtain ⟨path, r, whole, follows⟩ := h.whole empty enters
  rw [whole]
  exact same n s path r follows

/-- A deed that is done for no action answers none. -/
lemma recorded?_eq_none (h : Tracks start hs t) {x : Happening M} (mem : x ∈ hs)
    (number : x.number? = none) : x.recorded? = none := by
  cases x with
  | did number' d =>
    obtain rfl : number' = none := number
    exact (Deed.answers_nothing (h.apart d mem)).1
  | _ => rfl

/-- What has been done is accounted for where nobody is inside. -/
lemma accounted (h : Tracks start hs t) (empty : ∀ n, t.inside n = none) :
    Accounted (deedsAmong hs) := by
  have sorted := h.sorted.filterMap deed?
  rw [List.filterMap_append, List.filterMap_flatMap, List.flatMap_def] at sorted
  refine .of_perm sorted (.append (Accounted.of_apart fun d mem => ?_) (.flatten ?_))
  · obtain ⟨number, mem⟩ := mem_deedsAmong.1 mem
    obtain ⟨mem, unnumbered⟩ := List.mem_filter.1 mem
    obtain rfl : number = none := of_decide_eq_true unnumbered
    exact h.apart d mem
  · refine List.forall_mem_map.2 fun n mem => ?_
    obtain ⟨s, enters⟩ := mem_arrivals.1 mem
    obtain ⟨path, r, whole, follows⟩ := h.whole empty enters
    have own : (course n hs).filterMap deed? = path := by
      rw [whole]
      exact deedsAmong_wholeCourse n s path r
    rw [own]
    exact (Thread.answered_act follows).2

end Tracks

/-- Statistics that tell of every action that has entered, once, and of nothing else. -/
structure ActionStats.Reports (stats : ActionStats) (during : List (Happening M)) : Prop where
  tells : stats.Tells (answered (deedsAmong during))
  answers : (answered (deedsAmong during)).Perm (during.filterMap answer?)
  departures : (during.filterMap departure?).Perm (during.filterMap arrival?)
  once : ((during.filterMap arrival?).map Prod.fst).Nodup

/-- What the window has counted when it is closed tells of those who have entered since it was
opened or closed before. -/
lemma Tracks.reports {start : Nat} {during : List (Happening M)} {t t' : Traffic M}
    (tracks : Tracks start during t') (empty : ∀ n, t'.inside n = none)
    (runs : t.Runs during t') (inner : ∀ x ∈ during, x.isGate = false)
    (fresh : t.world.environment.window.stats = {}) :
    t'.world.environment.window.stats.Reports during := by
  refine ⟨(runs.along inner).tells fresh (tracks.accounted empty), ?_, ?_, tracks.nodup⟩
  · rw [answered_deedsAmong]
    refine tracks.perm_of_courses empty (fun x mem number => tracks.recorded?_eq_none mem number)
      (fun x _ number => ?_) fun n s path r follows => ?_
    · cases x with
      | left => cases number
      | _ => rfl
    · rw [← answered_deedsAmong, deedsAmong_wholeCourse, (Thread.answered_act follows).1,
        filterMap_wholeCourse fun _ _ => rfl]
      rfl
  · refine tracks.perm_of_courses empty (fun x _ number => ?_) (fun x _ number => ?_)
      fun n s path r follows => ?_
    · cases x with
      | left => cases number
      | _ => rfl
    · cases x with
      | entered => cases number
      | _ => rfl
    · rw [filterMap_wholeCourse fun _ _ => rfl, filterMap_wholeCourse fun _ _ => rfl]
      rfl

/-- While the window is closed nothing is written. -/
lemma Tracks.quiet {during : List (Happening M)} {t t' : Traffic M}
    (tracks : Tracks t.entered during t') (runs : t.Runs during t')
    (phase : t.world.environment.window.phase = .closed)
    (unopened : ∀ tick, opened tick ∉ during) :
    ∀ d ∈ deedsAmong during, d.access.isWrite = false := by
  intro d mem
  have closed := runs.closed unopened phase
  obtain ⟨number, did⟩ := mem_deedsAmong.1 mem
  cases number with
  | none => exact Access.isWrite_eq_false (tracks.apart d did)
  | some n =>
    -- the deeds of the action so far are all made while the window is closed
    obtain ⟨s, path, rest, leads, within, done⟩ := (tracks.stands n).leads_of_mem
      (mem_course.2 ⟨did, rfl⟩)
    refine leads.quiet (fun d' mem' => closed d' ?_) d done
    exact mem_deedsAmong.2 ⟨some n, (mem_course.1 (within d' mem')).1⟩

/-- Where the window is opened or closed, what is told starts anew. -/
lemma Traffic.Runs.tracks_of_gate {w : World M} {before after : List (Happening M)}
    {gate : Happening M} {t : Traffic M}
    (runs : Runs ⟨w, 0, fun _ => none⟩ (before ++ gate :: after) t) (isGate : gate.isGate = true) :
    ∃ t₁ t₂, Tracks 0 before t₁ ∧ (∀ n, t₁.inside n = none) ∧ t₁.Step gate t₂ ∧
      t₂.entered = t₁.entered ∧ (∀ n, t₂.inside n = none) ∧
      t₂.world.environment.window.stats = {} ∧ t₂.Runs after t := by
  obtain ⟨t₁, first, later⟩ := runs.split
  have tracks : Tracks 0 ([] ++ before) t₁ :=
    (Tracks.of_empty (t := ⟨w, 0, fun _ => none⟩) fun _ => rfl).runs first
  cases later with
  | @cons _ t₂ _ _ _ step later =>
    obtain ⟨empty, inside, entered, fresh⟩ := step.empty_of_gate tracks isGate
    have still (n : Nat) : t₂.inside n = none := (congrFun inside n).trans (empty n)
    exact ⟨t₁, t₂, tracks, empty, step, entered, still, fresh, later⟩

/-- No action straddles a tick. However the moves of clients and the driver come after one another,
for every action that has entered there happens what its thread does, in order. Where the window is
opened or closed, all that happens for an action has happened or is still to come; while it stays
closed nothing is written; and the statistics that a closing returns tell of the actions that have
entered since the opening or closing before, each once, and of no others. -/
theorem no_action_straddles (w : World M) (moves : List (Move M)) :
    let t := (Traffic.follow moves ⟨w, 0, fun _ => none⟩).2
    let hs := (Traffic.follow moves ⟨w, 0, fun _ => none⟩).1
    (hs.filterMap arrival?).map Prod.fst = List.range t.entered ∧
    (∀ n, Stands n (course n hs) (t.inside n)) ∧
    (∀ before gate after, hs = before ++ gate :: after → gate.isGate = true →
      ∀ n s, entered n s ∈ before →
        (∃ path r, course n before = wholeCourse n s path r ∧ s.thread.Follows path r) ∧
        course n after = []) ∧
    (∀ before stats during after, hs = before ++ closed stats :: (during ++ after) →
      (∀ tick, opened tick ∉ during) → ∀ d ∈ deedsAmong during, d.access.isWrite = false) ∧
    (∀ before gate during stats after, hs = before ++ gate :: (during ++ closed stats :: after) →
      gate.isGate = true → (∀ x ∈ during, x.isGate = false) → stats.Reports during) := by
  intro t hs
  have runs : Traffic.Runs ⟨w, 0, fun _ => none⟩ hs t := Traffic.follow_runs moves _
  have tracks : Tracks 0 ([] ++ hs) t :=
    (Tracks.of_empty (t := ⟨w, 0, fun _ => none⟩) fun _ => rfl).runs runs
  rw [List.nil_append] at tracks
  refine ⟨?_, tracks.stands, ?_, ?_, ?_⟩
  · rw [tracks.entries, List.range_eq_range']
    rfl
  · intro before gate after split isGate n s enters
    rw [split] at runs
    obtain ⟨t₁, t₂, tracks₁, empty, -, same, empty₂, -, later⟩ := runs.tracks_of_gate isGate
    refine ⟨tracks₁.whole empty enters, ?_⟩
    have tracks₂ : Tracks t₂.entered ([] ++ after) t := (Tracks.of_empty empty₂).runs later
    refine tracks₂.fresh n (.inl ?_)
    by_contra high
    have none := tracks₁.fresh n (.inr (by omega))
    exact List.not_mem_nil (none ▸ mem_course.2 ⟨enters, rfl⟩)
  · intro before stats during after split unopened
    rw [split] at runs
    obtain ⟨t₁, t₂, -, -, step, -, empty₂, -, later⟩ := runs.tracks_of_gate rfl
    obtain ⟨t₃, during_runs, -⟩ := later.split
    have phase : t₂.world.environment.window.phase = .closed := by
      cases step
      rfl
    have tracks₃ : Tracks t₂.entered ([] ++ during) t₃ := (Tracks.of_empty empty₂).runs during_runs
    exact tracks₃.quiet during_runs phase unopened
  · intro before gate during stats after split isGate inner
    rw [split] at runs
    obtain ⟨t₁, t₂, -, -, -, -, empty₂, fresh, later⟩ := runs.tracks_of_gate isGate
    obtain ⟨t₃, during_runs, closes⟩ := later.split
    have tracks₃ : Tracks t₂.entered ([] ++ during) t₃ := (Tracks.of_empty empty₂).runs during_runs
    cases closes with
    | cons step _ =>
      have empty₃ := (step.empty_of_gate tracks₃ rfl).1
      cases step
      exact tracks₃.reports empty₃ during_runs inner fresh

end Cadence
