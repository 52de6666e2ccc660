import Mathlib.Data.List.Induction
import CommandShell.Host

/-! # Which hosts an interrupt reaches -/

namespace CommandShell

namespace HostStep

/-- One of the steps cancels the token of a host, or an interrupt comes after the host
has begun to listen. -/
def Cancels (steps : List HostStep) (index : Nat) : Prop :=
  .cancel index ∈ steps ∨
    ∃ before later, steps = before ++ .listen index :: later ∧ .interrupt ∈ later

variable {index : Nat}

theorem not_cancels_nil : ¬ Cancels [] index := by
  simp [Cancels]

theorem cancels_cons_iff {step : HostStep} {later : List HostStep} :
    Cancels (step :: later) index ↔
      step = .cancel index ∨ (step = .listen index ∧ .interrupt ∈ later) ∨
        Cancels later index := by
  have hlisten :
      (∃ before after, step :: later = before ++ .listen index :: after ∧
          .interrupt ∈ after) ↔
        (step = .listen index ∧ .interrupt ∈ later) ∨
          ∃ before after, later = before ++ .listen index :: after ∧
            .interrupt ∈ after := by
    constructor
    · rintro ⟨before, after, hsplit, hinterrupt⟩
      rcases List.cons_eq_append_iff.mp hsplit with ⟨rfl, hfirst⟩ | ⟨rest, rfl, hrest⟩
      · rw [List.cons.injEq] at hfirst
        obtain ⟨hstep, rfl⟩ := hfirst
        exact Or.inl ⟨hstep.symm, hinterrupt⟩
      · exact Or.inr ⟨rest, after, hrest, hinterrupt⟩
    · rintro (⟨rfl, hinterrupt⟩ | ⟨before, after, rfl, hinterrupt⟩)
      · exact ⟨[], later, rfl, hinterrupt⟩
      · exact ⟨step :: before, after, rfl, hinterrupt⟩
  unfold Cancels
  rw [hlisten, List.mem_cons, eq_comm]
  grind

theorem cancels_append_iff {before later : List HostStep} :
    Cancels (before ++ later) index ↔
      Cancels before index ∨ Cancels later index ∨
        (.listen index ∈ before ∧ .interrupt ∈ later) := by
  induction before with
  | nil => simp [not_cancels_nil]
  | cons step rest ih =>
      rw [List.cons_append, cancels_cons_iff, cancels_cons_iff, ih, List.mem_append,
        List.mem_cons, eq_comm (a := HostStep.listen index)]
      grind

theorem cancels_concat_iff {before : List HostStep} {step : HostStep} :
    Cancels (before ++ [step]) index ↔
      Cancels before index ∨ step = .cancel index ∨
        (.listen index ∈ before ∧ step = .interrupt) := by
  rw [cancels_append_iff, cancels_cons_iff, List.mem_singleton, eq_comm (a := interrupt)]
  simp [not_cancels_nil]

end HostStep

/-! ## One host -/

namespace Host

variable {index : Nat}

def react (index : Nat) (host : Host) : HostStep → Host
  | .listen target => if target = index then host.listen else host
  | .cancel target => if target = index then host.cancel else host
  | .interrupt => host.interrupt.1

/-- What the steps taken show on a host: whether its token is cancelled, and whether it
waits for an interrupt. -/
structure Tells (index : Nat) (steps : List HostStep) (host : Host) : Prop where
  cancelled_iff : host.cancelled = true ↔ HostStep.Cancels steps index
  waits_iff : host.waits ≠ 0 ↔ host.cancelled = false ∧ .listen index ∈ steps

theorem tells_nil : Tells index [] {} := by
  constructor
  · simp [HostStep.not_cancels_nil]
  · simp

theorem Tells.listen {steps : List HostStep} {host : Host}
    (htells : host.Tells index steps) :
    host.listen.Tells index (steps ++ [.listen index]) := by
  have hcancels : HostStep.Cancels (steps ++ [.listen index]) index ↔
      HostStep.Cancels steps index := by
    simp [HostStep.cancels_concat_iff]
  unfold Host.listen
  cases hcancelled : host.cancelled with
  | true =>
      have hwaits := htells.waits_iff
      rw [if_pos rfl]
      constructor
      · rw [hcancels]
        exact htells.cancelled_iff
      · simpa [hcancelled] using hwaits
  | false =>
      rw [if_neg (by simp)]
      constructor
      · rw [hcancels, ← htells.cancelled_iff]
        simp [hcancelled]
      · simp

theorem tells_cancel (steps : List HostStep) (host : Host) :
    host.cancel.Tells index (steps ++ [.cancel index]) := by
  constructor
  · simp [Host.cancel, HostStep.cancels_concat_iff]
  · simp [Host.cancel]

theorem Tells.interrupt {steps : List HostStep} {host : Host}
    (htells : host.Tells index steps) :
    host.interrupt.1.Tells index (steps ++ [.interrupt]) := by
  have hcancels : HostStep.Cancels (steps ++ [.interrupt]) index ↔
      HostStep.Cancels steps index ∨ .listen index ∈ steps := by
    simp [HostStep.cancels_concat_iff]
  unfold Host.interrupt
  by_cases hnone : host.waits = 0
  · -- a host that has listened and does not wait has its token cancelled already
    have hlistened : .listen index ∈ steps → host.cancelled = true := by
      intro hlisten
      by_contra hactive
      have hwaits := htells.waits_iff.mpr ⟨by simpa using hactive, hlisten⟩
      exact hwaits hnone
    rw [if_pos hnone]
    constructor
    · rw [hcancels, ← htells.cancelled_iff]
      exact ⟨Or.inl, fun hcancelled => hcancelled.elim id hlistened⟩
    · rw [htells.waits_iff]
      simp
  · have hlisten : .listen index ∈ steps := (htells.waits_iff.mp hnone).2
    rw [if_neg hnone]
    constructor
    · rw [hcancels]
      simp [Host.cancel, hlisten]
    · simp [Host.cancel]

theorem Tells.other {steps : List HostStep} {host : Host} {step : HostStep}
    (htells : host.Tells index steps) (hlisten : step ≠ .listen index)
    (hcancel : step ≠ .cancel index) (hinterrupt : step ≠ .interrupt) :
    host.Tells index (steps ++ [step]) := by
  constructor
  · rw [HostStep.cancels_concat_iff, htells.cancelled_iff]
    simp [hcancel, hinterrupt]
  · rw [htells.waits_iff]
    simp [hlisten.symm]

theorem Tells.react {steps : List HostStep} {host : Host}
    (htells : host.Tells index steps) (step : HostStep) :
    (host.react index step).Tells index (steps ++ [step]) := by
  cases step with
  | listen target =>
      rw [Host.react]
      by_cases htarget : target = index
      · rw [if_pos htarget, htarget]
        exact htells.listen
      · rw [if_neg htarget]
        exact htells.other (by simp [htarget]) (by simp) (by simp)
  | cancel target =>
      rw [Host.react]
      by_cases htarget : target = index
      · rw [if_pos htarget, htarget]
        exact tells_cancel steps host
      · rw [if_neg htarget]
        exact htells.other (by simp) (by simp [htarget]) (by simp)
  | interrupt => exact htells.interrupt

theorem tells_foldl_react (steps : List HostStep) :
    (steps.foldl (react index) {}).Tells index steps := by
  induction steps using List.reverseRecOn with
  | nil => exact tells_nil
  | append_singleton init step ih =>
      rw [List.foldl_append]
      exact ih.react step

end Host

/-! ## All hosts -/

namespace Hosts

def fresh (count : Nat) : Hosts := List.replicate count {}

def CancelledAfter (count : Nat) (steps : List HostStep) (index : Nat) : Prop :=
  ((fresh count).after steps).tokens[index]? = some true

theorem getElem?_step (hosts : Hosts) (step : HostStep) (index : Nat) :
    (hosts.step step).1[index]? = hosts[index]?.map (Host.react index · step) := by
  cases step with
  | listen target =>
      simp only [Hosts.step, List.getElem?_modify, Host.react]
      by_cases htarget : target = index <;> simp [htarget]
  | cancel target =>
      simp only [Hosts.step, List.getElem?_modify, Host.react]
      by_cases htarget : target = index <;> simp [htarget]
  | interrupt => exact List.getElem?_map

theorem getElem?_after (hosts : Hosts) (steps : List HostStep) (index : Nat) :
    (hosts.after steps)[index]? =
      hosts[index]?.map fun host => steps.foldl (Host.react index) host := by
  induction steps generalizing hosts with
  | nil => simp [after]
  | cons step rest ih =>
      have hrest := ih (hosts.step step).1
      rw [getElem?_step, Option.map_map] at hrest
      exact hrest

theorem cancelledAfter_iff {count : Nat} {steps : List HostStep} {index : Nat}
    (hindex : index < count) :
    CancelledAfter count steps index ↔ HostStep.Cancels steps index := by
  have hfresh : (fresh count)[index]? = some {} := by
    simp [fresh, hindex]
  have htells : Host.Tells index steps _ := Host.tells_foldl_react steps
  unfold CancelledAfter
  rw [tokens, List.getElem?_map, getElem?_after, hfresh, ← htells.cancelled_iff]
  simp

/-- After any steps of any number of hosts the token of a host is cancelled just if a
step cancelled it or an interrupt came after the host had begun to listen.  So it stays
cancelled; an interrupt before the host listens makes no difference to it; the same step
again makes none, for an interrupt unless the host has begun to listen in between; and the
steps of other hosts make none. -/
theorem cancelled_iff_interrupt_after_listen (count : Nat) (index : Fin count) :
    (∀ steps, CancelledAfter count steps index ↔
      .cancel index.val ∈ steps ∨ ∃ before later,
        steps = before ++ .listen index.val :: later ∧ .interrupt ∈ later) ∧
    (∀ before later, CancelledAfter count before index →
      CancelledAfter count (before ++ later) index) ∧
    (∀ before later, .listen index.val ∉ before →
      (CancelledAfter count (before ++ .interrupt :: later) index ↔
        CancelledAfter count (before ++ later) index)) ∧
    (∀ step before between later,
      (step = .interrupt → .listen index.val ∉ between) →
      (CancelledAfter count (before ++ step :: between ++ step :: later) index ↔
        CancelledAfter count (before ++ step :: between ++ later) index)) ∧
    ∀ target before later, target ≠ index.val →
      (CancelledAfter count (before ++ .listen target :: later) index ↔
        CancelledAfter count (before ++ later) index) ∧
      (CancelledAfter count (before ++ .cancel target :: later) index ↔
        CancelledAfter count (before ++ later) index) := by
  have hiff : ∀ steps, CancelledAfter count steps index ↔
      HostStep.Cancels steps index := fun steps => cancelledAfter_iff index.isLt
  simp only [hiff]
  refine ⟨fun _ => Iff.rfl, ?_, ?_, ?_, ?_⟩
  · intro before later hcancels
    exact HostStep.cancels_append_iff.mpr (Or.inl hcancels)
  · intro before later hdeaf
    simp [HostStep.cancels_append_iff, HostStep.cancels_cons_iff, hdeaf]
  · intro step before between later hbetween
    simp only [HostStep.cancels_append_iff, HostStep.cancels_cons_iff, List.mem_append,
      List.mem_cons]
    by_cases hinterrupt : step = .interrupt
    · have hquiet := hbetween hinterrupt
      simp only [hinterrupt, reduceCtorEq, hquiet]
      grind
    · grind
  · intro target before later htarget
    simp [HostStep.cancels_append_iff, HostStep.cancels_cons_iff, htarget]

end Hosts

end CommandShell
