import Rs422Gateway.Gateway.EthernetDiag

/-!
# What the recovery measurement reports

As long as no tick that is to be captured is `UINT32_MAX`, the variables hold the report of the
current cycle after every call. A call that is to capture that tick leaves the variables as if it
had not been made, and the next call of its kind is captured in its place.
-/

namespace Rs422Gateway

namespace RecoveryCycle

variable {cycle : RecoveryCycle} {c : EthernetDiagCall} {m : Milestone}

/-! ## One more call -/

theorem current_append (calls : List EthernetDiagCall) (c : EthernetDiagCall) :
    current (calls ++ [c]) = extend (current calls) c := by
  simp only [current, List.foldl_append, List.foldl_cons, List.foldl_nil]

@[simp] theorem push_linkDownTick : (cycle.push c).linkDownTick = cycle.linkDownTick := rfl

theorem push_firstLinkUp : (cycle.push c).firstLinkUp = cycle.firstLinkUp.or c.linkUp? := by
  simp only [push, firstLinkUp, List.findSome?_append, List.findSome?_cons, List.findSome?_nil]
  cases c.linkUp? <;> rfl

theorem sinceLinkUp_eq_nil (h : cycle.firstLinkUp = none) : cycle.sinceLinkUp = [] := by
  rw [firstLinkUp, List.findSome?_eq_none_iff] at h
  rw [sinceLinkUp, List.dropWhile_eq_nil_iff]
  intro c hc
  rw [h c hc]
  rfl

theorem sinceLinkUp_ne_nil (h : cycle.firstLinkUp ≠ none) : cycle.sinceLinkUp ≠ [] := by
  intro hnil
  rw [sinceLinkUp, List.dropWhile_eq_nil_iff] at hnil
  refine h ?_
  rw [firstLinkUp, List.findSome?_eq_none_iff]
  intro c hc
  exact Option.isNone_iff_eq_none.mp (hnil c hc)

theorem firstOccurrence_eq_none (h : cycle.firstLinkUp = none) :
    cycle.firstOccurrence m = none := by
  rw [firstOccurrence, sinceLinkUp_eq_nil h, List.findSome?_nil]

/-- A link-up is no milestone, so that one before the first link-up counts for nothing. -/
theorem push_firstOccurrence_of_down (h : cycle.firstLinkUp = none) :
    (cycle.push c).firstOccurrence m = none := by
  have hsince : (cycle.push c).sinceLinkUp = [c].dropWhile fun c => c.linkUp?.isNone := by
    have hnil := sinceLinkUp_eq_nil h
    rw [sinceLinkUp] at hnil
    rw [sinceLinkUp, push, List.dropWhile_append, hnil]
    rfl
  rw [firstOccurrence, hsince]
  cases c <;> rfl

theorem push_firstOccurrence_of_up (h : cycle.firstLinkUp ≠ none) :
    (cycle.push c).firstOccurrence m = (cycle.firstOccurrence m).or (c.occurrence? m) := by
  have hsince : (cycle.push c).sinceLinkUp = cycle.sinceLinkUp ++ [c] := by
    have hne := sinceLinkUp_ne_nil h
    rw [sinceLinkUp] at hne
    rw [sinceLinkUp, push, List.dropWhile_append, if_neg (by simpa using hne)]
    rfl
  rw [firstOccurrence, hsince, List.findSome?_append]
  cases hc : c.occurrence? m <;> simp [firstOccurrence, hc]

/-! ## The report and the variables -/

/-- No captured tick is `UINT32_MAX`. -/
structure Distinct (cycle : RecoveryCycle) : Prop where
  linkUp : cycle.firstLinkUp ≠ some 0xFFFFFFFF
  occurrence : ∀ m, cycle.firstOccurrence m ≠ some 0xFFFFFFFF

/-- The report depends on the first link-up and the first occurrences only. -/
theorem report_congr {cycle' : RecoveryCycle} (hdown : cycle.linkDownTick = cycle'.linkDownTick)
    (hup : cycle.firstLinkUp = cycle'.firstLinkUp)
    (hoccurrence : ∀ m, cycle.firstOccurrence m = cycle'.firstOccurrence m) :
    cycle.report = cycle'.report := by
  have hcomplete : cycle.Complete ↔ cycle'.Complete := by simp only [Complete, hoccurrence]
  have hmilestone : cycle.milestone = cycle'.milestone := by
    funext m
    rw [milestone, milestone, hup, hoccurrence]
  simp only [report, hdown, hup, hmilestone, hcomplete]

theorem report_linkUpTick (h : cycle.Distinct) :
    cycle.report.linkUpTick = 0xFFFFFFFF ↔ cycle.firstLinkUp = none := by
  have hup := h.linkUp
  simp only [report]
  cases hlink : cycle.firstLinkUp <;> simp_all

theorem milestone_tick (h : cycle.Distinct) :
    (cycle.milestone m).tick = 0xFFFFFFFF ↔ cycle.firstOccurrence m = none := by
  have hm := h.occurrence m
  cases hup : cycle.firstLinkUp with
  | none => simp [milestone, hup, firstOccurrence_eq_none hup, MilestoneDiag.notCaptured]
  | some up =>
    cases hnow : cycle.firstOccurrence m <;>
      simp_all [milestone, MilestoneDiag.notCaptured]

theorem report_active (h : cycle.firstOccurrence m = none) :
    cycle.report.recoveryCycleActive = true := by
  have hincomplete : ¬ cycle.Complete := by
    rintro ⟨hready, hpong, hudp⟩
    cases m with
    | tcpServiceReady => exact hready h
    | tcpPongTxSuccess => exact hpong h
    | udpTxSuccess => exact hudp h
  simp only [report, hincomplete, decide_false, Bool.not_false]

/-- The cycle ends as soon as all three milestones are captured. -/
theorem finishIfComplete_report (h : cycle.Distinct) :
    ethernetDiagFinishIfComplete { cycle.report with recoveryCycleActive := true } =
      cycle.report := by
  have hcaptured : ((cycle.report.milestones .tcpServiceReady).tick ≠ 0xFFFFFFFF ∧
      (cycle.report.milestones .tcpPongTxSuccess).tick ≠ 0xFFFFFFFF ∧
      (cycle.report.milestones .udpTxSuccess).tick ≠ 0xFFFFFFFF) ↔ cycle.Complete := by
    simp only [report, ne_eq, milestone_tick h, Complete]
  by_cases hcomplete : cycle.Complete
  · rw [ethernetDiagFinishIfComplete, if_pos (hcaptured.mpr hcomplete)]
    simp only [report, hcomplete, decide_true, Bool.not_true]
  · rw [ethernetDiagFinishIfComplete, if_neg (mt hcaptured.mp hcomplete)]
    simp only [report, hcomplete, decide_false, Bool.not_false]

/-! ## The calls -/

theorem recordLinkUp_report (h : cycle.Distinct) (linkUpTick : UInt32) :
    ethernetDiagRecordLinkUp cycle.report linkUpTick =
      (cycle.push (.recordLinkUp linkUpTick)).report := by
  by_cases hup : cycle.firstLinkUp = none
  · have hactive : cycle.report.recoveryCycleActive = true :=
      report_active (m := .udpTxSuccess) (firstOccurrence_eq_none hup)
    have hfirst : (cycle.push (.recordLinkUp linkUpTick)).firstLinkUp = some linkUpTick := by
      rw [push_firstLinkUp, hup]
      rfl
    have hoccurrence : ∀ m, (cycle.push (.recordLinkUp linkUpTick)).firstOccurrence m = none :=
      fun m => push_firstOccurrence_of_down hup
    rw [ethernetDiagRecordLinkUp, if_neg (by simp [hactive, (report_linkUpTick h).mpr hup])]
    ext m
    · simp [report, Complete, hoccurrence, firstOccurrence_eq_none hup]
    · rfl
    · simp [report, hfirst]
    · rfl
    · simp [report, hfirst]
    all_goals simp [report, milestone, hfirst, hup, hoccurrence]
  · rw [ethernetDiagRecordLinkUp, if_pos (.inr (mt (report_linkUpTick h).mp hup))]
    refine report_congr rfl ?_ fun m => ?_
    · rw [push_firstLinkUp, Option.or_of_isSome (Option.isSome_iff_ne_none.mpr hup)]
    · rw [push_firstOccurrence_of_up hup]
      cases cycle.firstOccurrence m <;> rfl

theorem occurrence?_of_milestone? {now : UInt32} (hc : c.milestone? = some (m, now))
    (m' : Milestone) : c.occurrence? m' = if m = m' then some now else none := by
  rw [EthernetDiagCall.occurrence?, hc]
  rfl

/-- The call is not to capture anything: the report stays. -/
theorem report_push_of_not_captures {now : UInt32} (hc : c.milestone? = some (m, now))
    (h : cycle.firstLinkUp = none ∨ cycle.firstOccurrence m ≠ none) :
    (cycle.push c).report = cycle.report := by
  have hlink : c.linkUp? = none := by cases c <;> first | rfl | cases hc
  refine report_congr rfl ?_ fun m' => ?_
  · rw [push_firstLinkUp, hlink, Option.or_none]
  · by_cases hup : cycle.firstLinkUp = none
    · rw [push_firstOccurrence_of_down hup, firstOccurrence_eq_none hup]
    · rw [push_firstOccurrence_of_up hup, occurrence?_of_milestone? hc]
      by_cases hm : m = m'
      · subst hm
        have hsome := Option.isSome_iff_ne_none.mpr (h.resolve_left hup)
        rw [Option.or_of_isSome hsome]
      · rw [if_neg hm, Option.or_none]

/-- The first occurrence of a milestone after the first link-up. -/
theorem push_firstOccurrence_of_captures {now : UInt32} (hc : c.milestone? = some (m, now))
    (hup : cycle.firstLinkUp ≠ none) (hnone : cycle.firstOccurrence m = none) (m' : Milestone) :
    (cycle.push c).firstOccurrence m' =
      if m' = m then some now else cycle.firstOccurrence m' := by
  rw [push_firstOccurrence_of_up hup, occurrence?_of_milestone? hc]
  by_cases hm : m' = m
  · subst hm
    rw [hnone, if_pos rfl, Option.none_or]
  · rw [if_neg (Ne.symm hm), if_neg hm, Option.or_none]

theorem push_milestone_of_captures {now up : UInt32} (hc : c.milestone? = some (m, now))
    (hup : cycle.firstLinkUp = some up) (hnone : cycle.firstOccurrence m = none) :
    (cycle.push c).milestone =
      Function.update cycle.milestone m
        ⟨now, rs422KernelTicksToMs now, rs422KernelTicksToMs (now - up)⟩ := by
  have hlink : (cycle.push c).firstLinkUp = some up := by rw [push_firstLinkUp, hup, Option.some_or]
  have hne : cycle.firstLinkUp ≠ none := by simp [hup]
  funext m'
  rw [milestone, hlink, push_firstOccurrence_of_captures hc hne hnone]
  by_cases hm : m' = m
  · subst hm
    rw [if_pos rfl, Function.update_self]
  · rw [if_neg hm, Function.update_of_ne hm, milestone, hup]

theorem record_report (h : cycle.Distinct) (h' : (cycle.push c).Distinct) {now : UInt32}
    (hc : c.milestone? = some (m, now)) :
    ethernetDiagRecord m cycle.report now = (cycle.push c).report := by
  have htick : (cycle.report.milestones m).tick = 0xFFFFFFFF ↔ cycle.firstOccurrence m = none :=
    milestone_tick h
  by_cases hkeeps : cycle.firstLinkUp = none ∨ cycle.firstOccurrence m ≠ none
  · rw [report_push_of_not_captures hc hkeeps, ethernetDiagRecord,
      if_pos (.inr (hkeeps.imp (report_linkUpTick h).mpr (mt htick.mp)))]
  · obtain ⟨hup, hnone⟩ := not_or.mp hkeeps
    rw [not_not] at hnone
    obtain ⟨up, hsome⟩ := Option.ne_none_iff_exists'.mp hup
    have hlink : (cycle.push c).firstLinkUp = some up := by
      rw [push_firstLinkUp, hsome, Option.some_or]
    have hactive := report_active hnone
    have hdiag :
        { cycle.report with
          milestones :=
            Function.update cycle.report.milestones m
              ⟨now, rs422KernelTicksToMs now,
                rs422KernelTicksToMs (now - cycle.report.linkUpTick)⟩ } =
          { (cycle.push c).report with recoveryCycleActive := true } := by
      ext1
      · exact hactive
      all_goals simp [report, hlink, hsome, push_milestone_of_captures hc hsome hnone]
    rw [ethernetDiagRecord, if_neg (by
      simp [hactive, mt (report_linkUpTick h).mp hup, htick.mpr hnone]), hdiag,
      finishIfComplete_report h']

/-! ## One step -/

theorem push_distinct (h : cycle.Distinct) (hcaptures : cycle.captures c ≠ some 0xFFFFFFFF) :
    (cycle.push c).Distinct := by
  by_cases hup : cycle.firstLinkUp = none
  · rw [captures, hup] at hcaptures
    constructor
    · rw [push_firstLinkUp, hup, Option.none_or]
      exact hcaptures
    · intro m hm
      rw [push_firstOccurrence_of_down hup] at hm
      cases hm
  · obtain ⟨up, hsome⟩ := Option.ne_none_iff_exists'.mp hup
    constructor
    · rw [push_firstLinkUp, hsome, Option.some_or, ← hsome]
      exact h.linkUp
    · intro m
      rw [push_firstOccurrence_of_up hup]
      cases hm : cycle.firstOccurrence m with
      | some now =>
        rw [Option.some_or, ← hm]
        exact h.occurrence m
      | none =>
        rw [Option.none_or]
        intro hmax
        refine hcaptures ?_
        obtain ⟨⟨m', now⟩, hc, hnow⟩ := Option.bind_eq_some_iff.mp hmax
        obtain ⟨rfl, rfl⟩ : m' = m ∧ now = 0xFFFFFFFF := by simpa using hnow
        rw [captures, hsome]
        simp only [hc, Option.bind_some, if_pos hm]

/-- A call in an armed cycle, other than the next arming. -/
theorem call_report (h : cycle.Distinct) (h' : (cycle.push c).Distinct)
    (hc : ∀ linkDownTick, c ≠ .armRecovery linkDownTick) :
    cycle.report.call c = (cycle.push c).report := by
  cases c with
  | armRecovery linkDownTick => exact absurd rfl (hc linkDownTick)
  | recordLinkUp linkUpTick => exact recordLinkUp_report h linkUpTick
  | recordTcpServiceReady now => exact record_report h h' rfl
  | recordTcpPongTxSuccess now => exact record_report h h' rfl
  | recordUdpTxSuccess now => exact record_report h h' rfl

theorem extend_of_ne {cycle : Option RecoveryCycle}
    (hc : ∀ linkDownTick, c ≠ .armRecovery linkDownTick) :
    extend cycle c = cycle.map fun cycle => cycle.push c := by
  cases c with
  | armRecovery linkDownTick => exact absurd rfl (hc linkDownTick)
  | _ => rfl

/-- Before the first arming nothing is recorded. -/
theorem call_initialize (hc : ∀ linkDownTick, c ≠ .armRecovery linkDownTick) :
    ethernetDiagInitialize.call c = ethernetDiagInitialize := by
  cases c with
  | armRecovery linkDownTick => exact absurd rfl (hc linkDownTick)
  | _ => rfl

theorem report_armed (linkDownTick : UInt32) :
    report ⟨linkDownTick, []⟩ = ethernetDiagArmRecovery linkDownTick := rfl

/-- What holds between two calls. -/
structure Holds (s : EthernetDiagTrace) : Prop where
  reports : s.Reports
  distinct : ∀ cycle, current s.calls = some cycle → cycle.Distinct

theorem initial_holds : Holds .initial where
  reports := rfl
  distinct _ h := by cases h

theorem step_holds {s : EthernetDiagTrace} (h : Holds s) (hc : s.CapturesTick c) :
    Holds ⟨s.diag.call c, s.calls ++ [c]⟩ := by
  have hreports : s.diag = expected s.calls := h.reports
  by_cases harm : ∃ linkDownTick, c = .armRecovery linkDownTick
  · obtain ⟨linkDownTick, rfl⟩ := harm
    have hcurrent : current (s.calls ++ [.armRecovery linkDownTick]) = some ⟨linkDownTick, []⟩ :=
      current_append _ _
    constructor
    · change _ = expected _
      rw [expected, hcurrent, Option.elim_some, report_armed]
      rfl
    · rintro cycle hcycle
      cases hcurrent.symm.trans hcycle
      exact ⟨by simp [firstLinkUp], by simp [firstOccurrence, sinceLinkUp]⟩
  · have hne : ∀ linkDownTick, c ≠ .armRecovery linkDownTick := not_exists.mp harm
    have hcurrent : current (s.calls ++ [c]) = (current s.calls).map fun cycle => cycle.push c := by
      rw [current_append, extend_of_ne hne]
    cases hcycle : current s.calls with
    | none =>
      rw [hcycle, Option.map_none] at hcurrent
      constructor
      · change _ = expected _
        rw [expected, hcurrent, hreports, expected, hcycle]
        exact call_initialize hne
      · intro cycle hsome
        cases hcurrent.symm.trans hsome
    | some cycle =>
      rw [hcycle, Option.map_some] at hcurrent
      have hpush : (cycle.push c).Distinct := by
        refine push_distinct (h.distinct cycle hcycle) ?_
        rwa [EthernetDiagTrace.CapturesTick, hcycle, Option.bind_some] at hc
      constructor
      · change _ = expected _
        rw [expected, hcurrent, hreports, expected, hcycle]
        exact call_report (h.distinct cycle hcycle) hpush hne
      · intro cycle' hsome
        cases hcurrent.symm.trans hsome
        exact hpush

/-! ## A captured tick that is `UINT32_MAX` -/

/-- A first link-up at `UINT32_MAX` does not keep the next one from being captured. -/
theorem recordLinkUp_twice (h : cycle.Distinct) (hup : cycle.firstLinkUp = none) :
    (ethernetDiagRecordLinkUp (ethernetDiagRecordLinkUp cycle.report 0xFFFFFFFF) 0).linkUpTick =
      0 := by
  have hactive : (cycle.push (.recordLinkUp 0xFFFFFFFF)).report.recoveryCycleActive = true :=
    report_active (m := .udpTxSuccess) (push_firstOccurrence_of_down hup)
  have htick : (cycle.push (.recordLinkUp 0xFFFFFFFF)).report.linkUpTick = 0xFFFFFFFF := by
    simp only [report, push_firstLinkUp, hup]
    rfl
  rw [recordLinkUp_report h, ethernetDiagRecordLinkUp, if_neg (by simp [hactive, htick])]

theorem finishIfComplete_milestones (d : EthernetDiag) :
    (ethernetDiagFinishIfComplete d).milestones = d.milestones := by
  rw [ethernetDiagFinishIfComplete]
  split <;> rfl

theorem finishIfComplete_of_notCaptured {d : EthernetDiag}
    (h : (d.milestones m).tick = 0xFFFFFFFF) :
    ethernetDiagFinishIfComplete d = d := by
  refine if_neg ?_
  rintro ⟨hready, hpong, hudp⟩
  cases m with
  | tcpServiceReady => exact hready h
  | tcpPongTxSuccess => exact hpong h
  | udpTxSuccess => exact hudp h

/-- A first occurrence at `UINT32_MAX` does not keep the next one from being captured. -/
theorem record_twice {d : EthernetDiag} (hactive : d.recoveryCycleActive = true)
    (hup : d.linkUpTick ≠ 0xFFFFFFFF) (hm : (d.milestones m).tick = 0xFFFFFFFF) :
    ((ethernetDiagRecord m (ethernetDiagRecord m d 0xFFFFFFFF) 0).milestones m).tick = 0 := by
  have hfirst :
      ethernetDiagRecord m d 0xFFFFFFFF =
        { d with
          milestones :=
            Function.update d.milestones m
              ⟨0xFFFFFFFF, rs422KernelTicksToMs 0xFFFFFFFF,
                rs422KernelTicksToMs (0xFFFFFFFF - d.linkUpTick)⟩ } := by
    rw [ethernetDiagRecord, if_neg (by simp [hactive, hup, hm])]
    exact finishIfComplete_of_notCaptured (m := m) (by simp only [Function.update_self])
  rw [hfirst, ethernetDiagRecord, if_neg (by simp [hactive, hup]), finishIfComplete_milestones]
  simp only [Function.update_self]

theorem report_push_twice (c' : EthernetDiagCall) (hc : c.milestone? = some (m, 0xFFFFFFFF))
    (hup : cycle.firstLinkUp ≠ none) (hnone : cycle.firstOccurrence m = none) :
    (((cycle.push c).push c').report.milestones m).tick = 0xFFFFFFFF := by
  obtain ⟨up, hsome⟩ := Option.ne_none_iff_exists'.mp hup
  have hlink : (cycle.push c).firstLinkUp = some up := by
    rw [push_firstLinkUp, hsome, Option.some_or]
  have hlink' : ((cycle.push c).push c').firstLinkUp = some up := by
    rw [push_firstLinkUp, hlink, Option.some_or]
  have hfirst : ((cycle.push c).push c').firstOccurrence m = some 0xFFFFFFFF := by
    rw [push_firstOccurrence_of_up (by simp [hlink]),
      push_firstOccurrence_of_captures hc hup hnone, if_pos rfl, Option.some_or]
  simp only [report, milestone, hlink', hfirst]

theorem captures_armRecovery {linkDownTick now : UInt32}
    (h : cycle.captures (.armRecovery linkDownTick) = some now) : False := by
  rw [captures] at h
  split at h <;> cases h

/-- After a call that is to capture `UINT32_MAX`, a further call is captured in its place. -/
theorem exists_call_ne_report (h : cycle.Distinct) (hc : cycle.captures c = some 0xFFFFFFFF) :
    ∃ c', (∀ linkDownTick, c' ≠ .armRecovery linkDownTick) ∧
      (cycle.report.call c).call c' ≠ ((cycle.push c).push c').report := by
  by_cases hup : cycle.firstLinkUp = none
  · rw [captures, hup] at hc
    obtain rfl : c = .recordLinkUp 0xFFFFFFFF := by
      cases c <;> simp_all [EthernetDiagCall.linkUp?]
    refine ⟨.recordLinkUp 0, by simp, fun heq => ?_⟩
    have htick := (recordLinkUp_twice h hup).symm.trans (congrArg EthernetDiag.linkUpTick heq)
    simp [report, push_firstLinkUp, hup, EthernetDiagCall.linkUp?] at htick
  · obtain ⟨up, hsome⟩ := Option.ne_none_iff_exists'.mp hup
    rw [captures, hsome] at hc
    obtain ⟨⟨m, now⟩, hm, hnow⟩ := Option.bind_eq_some_iff.mp hc
    obtain ⟨hnone, hnow⟩ : cycle.firstOccurrence m = none ∧ now = 0xFFFFFFFF := by
      simpa using hnow
    subst hnow
    have htwice :=
      record_twice (report_active hnone) (mt (report_linkUpTick h).mp hup)
        ((milestone_tick h).mpr hnone)
    have hlost (c' : EthernetDiagCall) {d : EthernetDiag} (hd : (d.milestones m).tick = 0) :
        d ≠ ((cycle.push c).push c').report := by
      rintro rfl
      have htick := report_push_twice c' hm hup hnone
      rw [hd] at htick
      cases htick
    cases c with
    | recordTcpServiceReady =>
      cases hm
      exact ⟨.recordTcpServiceReady 0, by simp, hlost _ htwice⟩
    | recordTcpPongTxSuccess =>
      cases hm
      exact ⟨.recordTcpPongTxSuccess 0, by simp, hlost _ htwice⟩
    | recordUdpTxSuccess =>
      cases hm
      exact ⟨.recordUdpTxSuccess 0, by simp, hlost _ htwice⟩
    | _ => cases hm

end RecoveryCycle

open Transition (Reachable unguarded exists_reachable)

theorem EthernetDiagTrace.reachable_holds {s : EthernetDiagTrace}
    (run : Reachable EthernetDiagTrace.step EthernetDiagTrace.CapturesTick .initial s) :
    RecoveryCycle.Holds s := by
  refine Reachable.invariant RecoveryCycle.initial_holds ?_ run
  rintro s c s' h hc ⟨⟩
  exact RecoveryCycle.step_holds h hc

/-- In every run in which no tick to be captured is `UINT32_MAX`, the variables hold the report of
    the current cycle after every call. Where such a tick is to be captured, there is a next call
    after which they do not. -/
theorem ethernetDiag_reports (s : EthernetDiagTrace)
    (run : Reachable EthernetDiagTrace.step EthernetDiagTrace.CapturesTick .initial s) :
    s.Reports ∧
      ∀ c s', ¬ s.CapturesTick c → s.step c = some s' →
        ∃ c' s'', s'.step c' = some s'' ∧ ¬ s''.Reports := by
  have h := EthernetDiagTrace.reachable_holds run
  have hreports : s.diag = RecoveryCycle.expected s.calls := h.reports
  constructor
  · exact hreports
  · rintro c s' hcaptures ⟨⟩
    rw [EthernetDiagTrace.CapturesTick, not_not] at hcaptures
    obtain ⟨cycle, hcycle, hmax⟩ := Option.bind_eq_some_iff.mp hcaptures
    obtain ⟨c', hc', hlost⟩ := RecoveryCycle.exists_call_ne_report (h.distinct cycle hcycle) hmax
    refine ⟨c', _, rfl, fun hreports' => hlost ?_⟩
    have hc : ∀ linkDownTick, c ≠ .armRecovery linkDownTick := by
      rintro linkDownTick rfl
      exact RecoveryCycle.captures_armRecovery hmax
    change (s.diag.call c).call c' = RecoveryCycle.expected (s.calls ++ [c] ++ [c']) at hreports'
    rw [hreports, RecoveryCycle.expected, hcycle, RecoveryCycle.expected,
      RecoveryCycle.current_append, RecoveryCycle.current_append, hcycle,
      RecoveryCycle.extend_of_ne hc, RecoveryCycle.extend_of_ne hc'] at hreports'
    exact hreports'

/-- Milestones that come before the link-up or a second time, and the tick passes zero. -/
def recoveryCalls : List EthernetDiagCall :=
  [.recordUdpTxSuccess 7, .armRecovery 0xFFFFFF00, .recordTcpServiceReady 0xFFFFFF10,
    .recordLinkUp 0xFFFFFFF0, .recordUdpTxSuccess 0xFFFFFFF8, .recordLinkUp 2,
    .recordTcpServiceReady 8, .recordUdpTxSuccess 16]

/-- The first PONG completes the cycle. -/
theorem ethernetDiag_reports_wrap :
    ∃ s, Reachable EthernetDiagTrace.step EthernetDiagTrace.CapturesTick .initial s ∧ s.Reports ∧
      s.diag.recoveryCycleActive = false ∧ s.diag.linkUpTick = 0xFFFFFFF0 ∧
      s.diag.milestones .tcpServiceReady = ⟨8, 8, 24⟩ ∧
      s.diag.milestones .tcpPongTxSuccess = ⟨32, 32, 48⟩ ∧
      s.diag.milestones .udpTxSuccess = ⟨0xFFFFFFF8, 0xFFFFFFF8, 8⟩ := by
  obtain ⟨s, run, htest⟩ :=
    exists_reachable EthernetDiagTrace.step EthernetDiagTrace.CapturesTick .initial
      (recoveryCalls ++ [.recordTcpPongTxSuccess 32])
      (fun s =>
        decide
          (s.diag.recoveryCycleActive = false ∧ s.diag.linkUpTick = 0xFFFFFFF0 ∧
            s.diag.milestones .tcpServiceReady = ⟨8, 8, 24⟩ ∧
            s.diag.milestones .tcpPongTxSuccess = ⟨32, 32, 48⟩ ∧
            s.diag.milestones .udpTxSuccess = ⟨0xFFFFFFF8, 0xFFFFFFF8, 8⟩))
      (by decide +kernel)
  exact ⟨s, run, (ethernetDiag_reports s run).1, of_decide_eq_true htest⟩

/-- A PONG whose tick is `UINT32_MAX` is not captured, and the cycle stays active after all three
    milestones. -/
theorem ethernetDiag_reports_missesMax :
    ¬ ∀ s, Reachable EthernetDiagTrace.step unguarded .initial s → s.Reports := by
  intro hall
  obtain ⟨s, run, htest⟩ :=
    exists_reachable EthernetDiagTrace.step unguarded .initial
      [.armRecovery 0xFFFFFF00, .recordLinkUp 0xFFFFFFF0, .recordTcpServiceReady 0xFFFFFFF8,
        .recordUdpTxSuccess 0xFFFFFFFC, .recordTcpPongTxSuccess 0xFFFFFFFF]
      (fun s =>
        decide
          (s.diag.recoveryCycleActive = true ∧
            (RecoveryCycle.expected s.calls).recoveryCycleActive = false))
      (by decide +kernel)
  obtain ⟨hactive, hexpected⟩ := of_decide_eq_true htest
  have hreports : s.diag = RecoveryCycle.expected s.calls := hall s run
  rw [hreports, hexpected] at hactive
  cases hactive

end Rs422Gateway
