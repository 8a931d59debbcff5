import Mathlib.Data.Option.Defs
import Triage.Proofs.LastSet
import Triage.Proofs.Skew.Judgement
import Triage.Proofs.Time.Difference

/-!
# What the known offset leaves

The known offset takes a part of the difference between the two clocks away.  What remains,
counted in nanoseconds, is all that a policy sees of the clocks outside leap seconds: it is
compared with the size of the threshold that was chosen last.  So neither the moment of a
failure nor the way in which the difference comes about matters.
-/

namespace Triage.Skew

open Triage.Time

/-! ## Policies that are chosen -/

namespace Policy

/-- A choice about a policy. -/
inductive Choice where
  | sensitiveStatuses (statuses : List UInt16)
  | threshold (span : Span)
  | possibleCodesOnAnyStatus (enabled : Bool)
deriving DecidableEq

namespace Choice

/-- The statuses that are chosen. -/
def sensitiveStatuses? : Choice → Option (List UInt16)
  | .sensitiveStatuses statuses => some statuses
  | .threshold _ => none
  | .possibleCodesOnAnyStatus _ => none

/-- The threshold that is chosen, with its direction. -/
def threshold? : Choice → Option Span
  | .sensitiveStatuses _ => none
  | .threshold span => some span
  | .possibleCodesOnAnyStatus _ => none

/-- The choice about codes that skew may cause. -/
def possibleCodesOnAnyStatus? : Choice → Option Bool
  | .sensitiveStatuses _ => none
  | .threshold _ => none
  | .possibleCodesOnAnyStatus enabled => some enabled

end Choice

/-- Make a choice. -/
def choose (policy : Policy) : Choice → Policy
  | .sensitiveStatuses statuses => policy.withSensitiveStatuses statuses
  | .threshold span => policy.withThreshold span
  | .possibleCodesOnAnyStatus enabled => policy.withPossibleCodesOnAnyStatus enabled

/-- Make choices one after the other, starting from the standard policy. -/
def ofChoices (choices : List Choice) : Policy := choices.foldl choose standard

/-- The statuses that are chosen last, or else the standard ones. -/
def chosenStatuses (choices : List Choice) : List UInt16 :=
  (lastSet? Choice.sensitiveStatuses? choices).getD defaultSensitiveStatuses

/-- The threshold that is chosen last, or else four minutes. -/
def chosenThreshold (choices : List Choice) : Span :=
  (lastSet? Choice.threshold? choices).getD Span.fourMinutes

/-- The last choice about codes that skew may cause; by itself a policy does not look at
them. -/
def chosenOnAnyStatus (choices : List Choice) : Bool :=
  (lastSet? Choice.possibleCodesOnAnyStatus? choices).getD false

theorem sensitiveStatuses_ofChoices (choices : List Choice) :
    (ofChoices choices).sensitiveStatuses = chosenStatuses choices := by
  apply field_foldl
  intro policy choice
  cases choice <;> rfl

theorem possibleCodesOnAnyStatus_ofChoices (choices : List Choice) :
    (ofChoices choices).possibleCodesOnAnyStatus = chosenOnAnyStatus choices := by
  apply field_foldl
  intro policy choice
  cases choice <;> rfl

/-- A policy keeps the size of the threshold only. -/
theorem threshold_ofChoices (choices : List Choice) :
    (ofChoices choices).threshold = (chosenThreshold choices).abs := by
  have sets (policy : Policy) (choice : Choice) :
      (policy.choose choice).threshold =
        (choice.threshold?.map Span.abs).getD policy.threshold := by
    cases choice <;> rfl
  rw [ofChoices, field_foldl sets, lastSet?_map, chosenThreshold]
  cases lastSet? Choice.threshold? choices <;> rfl

theorem suspects_ofChoices_iff {choices : List Choice} {observation : Observation} :
    (ofChoices choices).suspects observation = true ↔
      observation.status ∈ chosenStatuses choices ∨
        chosenOnAnyStatus choices = true ∧ observation.code ∈ ErrorCode.possibleSkew := by
  rw [suspects, isSensitiveStatus, sensitiveStatuses_ofChoices,
    possibleCodesOnAnyStatus_ofChoices, Bool.or_eq_true, Bool.and_eq_true,
    List.contains_iff_mem, ErrorCode.isPossibleSkew, List.contains_iff_mem]

end Policy

/-! ## The residual -/

namespace Observation

/-- Neither clock shows a leap second. -/
def WithoutLeap (observation : Observation) : Prop :=
  ¬ observation.now.IsLeap ∧ ∀ server ∈ observation.serverTime, ¬ server.IsLeap

instance (observation : Observation) : Decidable observation.WithoutLeap :=
  inferInstanceAs (Decidable (_ ∧ _))

/-- What the known offset leaves of the difference of the clocks, in nanoseconds. -/
def residual? (observation : Observation) : Option Int :=
  observation.serverTime.map fun server =>
    observation.now.unixNanoseconds - observation.clockOffset.nanoseconds -
      server.unixNanoseconds

/-- There is a residual exactly when the service's time is known. -/
theorem exists_residual_iff {observation : Observation} {large : Int → Prop} :
    (∃ residual ∈ observation.residual?, large residual) ↔
      ∃ server, observation.serverTime = some server ∧
        large (observation.now.unixNanoseconds - observation.clockOffset.nanoseconds -
          server.unixNanoseconds) := by
  constructor
  · rintro ⟨residual, left, isLarge⟩
    obtain ⟨server, known, rfl⟩ := Option.map_eq_some_iff.mp left
    exact ⟨server, known, isLarge⟩
  · rintro ⟨server, known, isLarge⟩
    exact ⟨_, Option.mem_map_of_mem _ known, isLarge⟩

end Observation

namespace Policy

variable {policy : Policy} {observation first second : Observation} {estimate : Instant}

/-- Outside leap seconds the clocks are judged by the residual. -/
theorem isSkewed?_iff_residual (plain : observation.WithoutLeap)
    (goneBack : observation.now.sub? observation.clockOffset = some estimate) :
    policy.isSkewed? observation = some true ↔
      ErrorCode.isDefiniteSkew observation.code = true ∨
        policy.suspects observation = true ∧
          ∃ residual ∈ observation.residual?, policy.threshold.nanoseconds ≤ residual.natAbs := by
  have measured {server : Instant} (known : observation.serverTime = some server) :
      estimate.nanosecondsSince server =
        observation.now.unixNanoseconds - observation.clockOffset.nanoseconds -
          server.unixNanoseconds := by
    have serverPlain := plain.2 server known
    rw [Instant.nanosecondsSince_sub? plain.1 serverPlain goneBack,
      Instant.nanosecondsSince_of_not_isLeap plain.1 serverPlain]
    omega
  rw [isSkewed?_eq_some_true_iff, Observation.exists_residual_iff]
  apply or_congr_right
  apply and_congr_right'
  constructor
  · rintro ⟨server, estimate', known, goneBack', skewed⟩
    obtain rfl := Option.some.inj (goneBack.symm.trans goneBack')
    rw [isClockSkewed_iff, measured known] at skewed
    exact ⟨server, known, skewed⟩
  · rintro ⟨server, known, reached⟩
    refine ⟨server, estimate, known, goneBack, ?_⟩
    rw [isClockSkewed_iff, measured known]
    exact reached

/-- Observations with the same code, the same status and the same residual are judged alike. -/
theorem isSkewed?_congr_residual {firstEstimate secondEstimate : Instant}
    (firstPlain : first.WithoutLeap) (secondPlain : second.WithoutLeap)
    (firstBack : first.now.sub? first.clockOffset = some firstEstimate)
    (secondBack : second.now.sub? second.clockOffset = some secondEstimate)
    (sameCode : first.code = second.code) (sameStatus : first.status = second.status)
    (sameResidual : first.residual? = second.residual?) :
    policy.isSkewed? first = policy.isSkewed? second := by
  obtain ⟨firstSkewed, firstJudged⟩ := policy.exists_isSkewed? first firstBack
  obtain ⟨secondSkewed, secondJudged⟩ := policy.exists_isSkewed? second secondBack
  have alike : policy.isSkewed? first = some true ↔ policy.isSkewed? second = some true := by
    rw [isSkewed?_iff_residual firstPlain firstBack, isSkewed?_iff_residual secondPlain secondBack,
      suspects, suspects, sameCode, sameStatus, sameResidual]
  rw [firstJudged, secondJudged, Option.some_inj, Option.some_inj] at alike
  rw [firstJudged, secondJudged, Bool.eq_iff_iff.mpr alike]

/-! ## Shifts -/

/-- One time of the service is the other one shifted, or both are missing. -/
def AreShifted (shift : Int) : Option Instant → Option Instant → Prop :=
  Option.Rel fun server shifted => server.addNanoseconds? shift = some shifted

/-- When both clocks are shifted by the same time, nothing changes. -/
theorem isSkewed?_shift_clocks {shiftedEstimate now : Instant} {serverTime : Option Instant}
    {shift : Int} (plain : observation.WithoutLeap)
    (goneBack : observation.now.sub? observation.clockOffset = some estimate)
    (nowShifted : observation.now.addNanoseconds? shift = some now)
    (serverShifted : AreShifted shift observation.serverTime serverTime)
    (shiftedBack : now.sub? observation.clockOffset = some shiftedEstimate) :
    policy.isSkewed? { observation with now := now, serverTime := serverTime } =
      policy.isSkewed? observation := by
  obtain ⟨code, status, server?, start, clockOffset⟩ := observation
  obtain ⟨startPlain, serverPlain⟩ := plain
  obtain ⟨nowPlain, nowNumber⟩ := (Instant.addNanoseconds?_eq_some_iff startPlain).mp nowShifted
  cases serverShifted with
  | none =>
      refine isSkewed?_congr_residual ⟨nowPlain, ?_⟩ ⟨startPlain, serverPlain⟩ shiftedBack
        goneBack rfl rfl rfl
      intro server impossible
      contradiction
  | @some server shifted moved =>
      obtain ⟨shiftedPlain, shiftedNumber⟩ :=
        (Instant.addNanoseconds?_eq_some_iff (serverPlain server rfl)).mp moved
      refine isSkewed?_congr_residual ⟨nowPlain, ?_⟩ ⟨startPlain, serverPlain⟩ shiftedBack
        goneBack rfl rfl ?_
      · rintro server' isServer
        obtain rfl := Option.some.inj isServer
        exact shiftedPlain
      · simp only [Observation.residual?, Option.map_some, nowNumber, shiftedNumber]
        congr 1
        omega

/-- When the client's clock is shifted and its offset knows of it, nothing changes. -/
theorem isSkewed?_shift_client {now : Instant} {clockOffset : Span} {shift : Int}
    (plain : observation.WithoutLeap)
    (goneBack : observation.now.sub? observation.clockOffset = some estimate)
    (nowShifted : observation.now.addNanoseconds? shift = some now)
    (offsetShifted : clockOffset.nanoseconds = observation.clockOffset.nanoseconds + shift) :
    policy.isSkewed? { observation with now := now, clockOffset := clockOffset } =
      policy.isSkewed? observation := by
  obtain ⟨nowPlain, nowNumber⟩ := (Instant.addNanoseconds?_eq_some_iff plain.1).mp nowShifted
  obtain ⟨estimatePlain, estimateNumber⟩ :=
    (Instant.addNanoseconds?_eq_some_iff plain.1).mp goneBack
  -- The shift of the clock and the one of the offset cancel in the estimate.
  have shiftedBack : now.sub? clockOffset = some estimate := by
    refine (Instant.addNanoseconds?_eq_some_iff nowPlain).mpr ⟨estimatePlain, ?_⟩
    omega
  refine isSkewed?_congr_residual ⟨nowPlain, plain.2⟩ plain shiftedBack goneBack rfl rfl ?_
  simp only [Observation.residual?, nowNumber, offsetShifted]
  congr 1
  funext server
  omega

/-- A policy that was made by any choices puts an observation outside leap seconds down to a
wrong clock exactly when its code says so for certain, or when the status or the code raises
the suspicion that was chosen last, the service's time is known, and the difference of the
clocks, less the known offset, is at least as large as the threshold that was chosen last,
without their directions and to the nanosecond.  It judges alike when both clocks are shifted
by the same time, and when the client's clock and its known offset are. -/
theorem skewed_iff_residual_reaches_threshold (choices : List Choice)
    {observation : Observation} {estimate : Instant} (plain : observation.WithoutLeap)
    (goneBack : observation.now.sub? observation.clockOffset = some estimate) :
    (∃ skewed, (ofChoices choices).isSkewed? observation = some skewed ∧
      (skewed = true ↔
        observation.code ∈ ErrorCode.definiteSkew ∨
          (observation.status ∈ chosenStatuses choices ∨
            chosenOnAnyStatus choices = true ∧ observation.code ∈ ErrorCode.possibleSkew) ∧
          ∃ server, observation.serverTime = some server ∧
            (chosenThreshold choices).nanoseconds.natAbs ≤
              (observation.now.unixNanoseconds - observation.clockOffset.nanoseconds -
                server.unixNanoseconds).natAbs)) ∧
    (∀ shift now serverTime shiftedEstimate, observation.now.addNanoseconds? shift = some now →
      AreShifted shift observation.serverTime serverTime →
      now.sub? observation.clockOffset = some shiftedEstimate →
      (ofChoices choices).isSkewed? { observation with now := now, serverTime := serverTime } =
        (ofChoices choices).isSkewed? observation) ∧
    ∀ shift now clockOffset, observation.now.addNanoseconds? shift = some now →
      clockOffset.nanoseconds = observation.clockOffset.nanoseconds + shift →
      (ofChoices choices).isSkewed? { observation with now := now, clockOffset := clockOffset } =
        (ofChoices choices).isSkewed? observation := by
  refine ⟨?_, ?_, ?_⟩
  · obtain ⟨skewed, judged⟩ := (ofChoices choices).exists_isSkewed? observation goneBack
    refine ⟨skewed, judged, ?_⟩
    have blamed : (ofChoices choices).isSkewed? observation = some true ↔ _ :=
      isSkewed?_iff_residual plain goneBack
    rw [judged, Option.some_inj, suspects_ofChoices_iff, threshold_ofChoices,
      Span.abs_nanoseconds, Observation.exists_residual_iff, ErrorCode.isDefiniteSkew,
      List.contains_iff_mem] at blamed
    simpa only [Int.ofNat_le] using blamed
  · intro shift now serverTime shiftedEstimate nowShifted serverShifted shiftedBack
    exact isSkewed?_shift_clocks plain goneBack nowShifted serverShifted shiftedBack
  · intro shift now clockOffset nowShifted offsetShifted
    exact isSkewed?_shift_client plain goneBack nowShifted offsetShifted

/-- Choices of which the last ones count: a minute, in whatever direction, and codes that skew
may cause on any status. -/
def minuteChoices : List Choice :=
  [.threshold Span.fourMinutes, .sensitiveStatuses [404], .possibleCodesOnAnyStatus true,
    .threshold ⟨-(60 * 1000000000), by decide, by decide⟩]

/-- A refused signature of a busy service.  The client, half a day into 1970, believes to be an
hour behind and is a minute less than that. -/
def refusedSignature : Observation where
  code := "SignatureDoesNotMatch"
  status := 503
  serverTime := Instant.ofParts? 0 46740 0
  now := (Instant.ofParts? 0 43200 0).get rfl
  clockOffset := ⟨-(3600 * 1000000000), by decide, by decide⟩

/-- The refused signature reaches the threshold exactly.  It still does when both clocks are
half a day later, on the next day, and when the client's clock is a nanosecond later and its
offset accounts for it. -/
theorem skewed_iff_residual_reaches_threshold_refusedSignature :
    refusedSignature.WithoutLeap ∧
      (ofChoices minuteChoices).isSkewed? refusedSignature = some true ∧
      (ofChoices minuteChoices).isSkewed?
        { refusedSignature with
          now := (Instant.ofParts? 1 0 0).get rfl
          serverTime := Instant.ofParts? 1 3540 0 } = some true ∧
      (ofChoices minuteChoices).isSkewed?
        { refusedSignature with
          now := (Instant.ofParts? 0 43200 1).get rfl
          clockOffset := ⟨-3599999999999, by decide, by decide⟩ } = some true := by
  have plain : refusedSignature.WithoutLeap := by decide +kernel
  have goneBack : refusedSignature.now.sub? refusedSignature.clockOffset =
      some ((Instant.ofParts? 0 46800 0).get rfl) := by
    decide +kernel
  obtain ⟨⟨skewed, judged, blamed⟩, clocksShifted, clientShifted⟩ :=
    skewed_iff_residual_reaches_threshold minuteChoices plain goneBack
  obtain rfl : skewed = true := by
    refine blamed.mpr (.inr ⟨.inr ⟨rfl, by decide⟩, _, rfl, ?_⟩)
    decide +kernel
  refine ⟨plain, judged, ?_, ?_⟩
  · rw [clocksShifted (43200 * 1000000000) _ _ ((Instant.ofParts? 1 3600 0).get rfl), judged]
    · decide +kernel
    · apply Option.Rel.some
      decide +kernel
    · decide +kernel
  · rw [clientShifted 1, judged]
    · decide +kernel
    · rfl

end Policy

end Triage.Skew
