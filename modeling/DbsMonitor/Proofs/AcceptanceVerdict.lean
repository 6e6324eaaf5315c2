import DbsMonitor.AcceptanceReport

/-!
# What a GO stands for

Every loop of the evaluation leaves the reasons clean exactly when they were and each thing it looks
at is in order. So a GO is a conjunction (`evaluate_go_iff`). It says nothing about an entry of the
matrix that is not of the baseline and has failed.
-/

namespace DbsMonitor.AcceptanceReport

def Passes (status : String) : Prop := normalizeStatus status = "pass"

def NotApplicable (entry : Entry) : Prop :=
  normalizeStatus entry.status = "n-a" ∧ entry.id ∈ allowedMatrixNA

def Pending (entry : Entry) : Prop :=
  normalizeStatus entry.status = "pending" ∧ entry.id ∈ allowedMatrixPending ∧
    entry.baseline = false

def Settled (entry : Entry) : Prop := Passes entry.status ∨ NotApplicable entry ∨ Pending entry

def Tolerated (entry : Entry) : Prop :=
  (entry.baseline = true → Passes entry.status ∨ NotApplicable entry) ∧
    (normalizeStatus entry.status = "pending" → Pending entry) ∧
    (normalizeStatus entry.status = "n-a" → NotApplicable entry)

def GatePasses (block : Block) : Prop :=
  (block.result = "" → block.entries ≠ []) ∧ (block.result ≠ "" → Passes block.result) ∧
    ∀ entry ∈ block.entries, Passes entry.status

structure MatrixPasses (entryOk : Entry → Prop) (matrix : Block) : Prop where
  result : matrix.result ≠ "" → Passes matrix.result
  length : matrix.entries.length = 104
  baseline : matrix.entries.countP Entry.baseline = 101
  nodup : (matrix.entries.map Entry.id).Nodup
  ids : ∀ entry ∈ matrix.entries, entry.id ≠ ""
  exceptions : matrix.exceptions = []
  entries : ∀ entry ∈ matrix.entries, entryOk entry

structure EvidencePasses (entryOk : Entry → Prop) (candidateSHA : String) (evidence : Evidence) :
    Prop where
  required : ∀ block ∈ requiredEvidence .final evidence,
    ∃ b, block = some b ∧ b.candidateSHA = candidateSHA
  gates : ∀ block ∈ [evidence.package, evidence.checkFull, evidence.pgRange,
    evidence.linuxNative], ∀ b ∈ block, GatePasses b
  matrix : ∀ b ∈ evidence.matrix, MatrixPasses entryOk b
  rtc : ∀ b ∈ evidence.rtc, hasJSONData b.summary = true

structure RoundPasses (entryOk : Entry → Prop) (candidateSHA : String) (round : Round) : Prop where
  valid : round.valid = true
  sha : round.candidateSHA = candidateSHA
  evidence : EvidencePasses entryOk candidateSHA round.evidence
  review : ∃ review, round.manualReview = some review ∧ review.complete = true ∧
    Passes review.result

def Ordered (rounds : List Round) : Prop :=
  ∃ first second, rounds = [first, second] ∧ first.sequence = 1 ∧ second.sequence = 2 ∧
    (∀ round ∈ rounds, hasJSONData round.environment = true ∧ timingValid round = true) ∧
    first.finishedAt ≤ second.startedAt

/-- The candidate is accepted, with what an entry of the matrix has to be. -/
structure Accepted (entryOk : Entry → Prop) (input : Input) : Prop where
  final : input.profile = .final
  gitHubActions : input.gitHubActions = false
  ordered : Ordered input.rounds
  passes : ∀ round ∈ input.rounds, RoundPasses entryOk input.candidateSHA round

section Checks

def Clean (reasons : ReasonSet) : Prop := ∀ reason ∈ reasons, reason = .gitHubActions

variable {reasons : ReasonSet} {reason : ReasonCode} {condition : Prop} [Decidable condition]

theorem hasFailure_eq_false_iff : reasons.hasFailure = false ↔ Clean reasons := by
  simp [ReasonSet.hasFailure, Clean]

theorem not_clean_cons (h : reason ≠ .gitHubActions) : ¬ Clean (reason :: reasons) :=
  fun hclean => h (hclean reason List.mem_cons_self)

theorem clean_addIf (h : reason ≠ .gitHubActions) :
    Clean (reasons.addIf condition reason) ↔ ¬ condition ∧ Clean reasons := by
  unfold ReasonSet.addIf
  split_ifs with hcondition
  · simpa [hcondition] using not_clean_cons h
  · simp [hcondition]

theorem clean_foldl {α : Type*} {f : ReasonSet → α → ReasonSet} (P : α → Prop)
    (h : ∀ reasons a, Clean (f reasons a) ↔ P a ∧ Clean reasons) (as : List α) :
    ∀ reasons, Clean (as.foldl f reasons) ↔ (∀ a ∈ as, P a) ∧ Clean reasons := by
  induction as with
  | nil => simp
  | cons a as ih =>
    intro reasons
    rw [List.foldl_cons, ih, h, List.forall_mem_cons, ← and_assoc, and_comm (a := P a)]

theorem clean_foldl_addIf {α : Type*} {f : α → Prop} [DecidablePred f]
    (h : reason ≠ .gitHubActions) (as : List α) (reasons : ReasonSet) :
    Clean (as.foldl (fun reasons a => reasons.addIf (f a) reason) reasons)
      ↔ (∀ a ∈ as, ¬ f a) ∧ Clean reasons :=
  clean_foldl (fun a => ¬ f a) (fun _ _ => clean_addIf h) as reasons

theorem clean_evaluateHardGate {block : Block} :
    Clean (evaluateHardGate false block reasons) ↔ GatePasses block ∧ Clean reasons := by
  unfold evaluateHardGate
  dsimp only
  rw [clean_foldl_addIf (by decide), clean_addIf (by decide), clean_addIf (by decide), GatePasses]
  simp only [Passes, Bool.not_false, Bool.true_or, Bool.false_eq_true, false_and, decide_false,
    not_false_eq_true, and_true, true_and, not_and, not_not]
  exact ⟨fun ⟨hentries, hempty, hresult, hclean⟩ => ⟨⟨hempty, hresult, hentries⟩, hclean⟩,
    fun ⟨⟨hempty, hresult, hentries⟩, hclean⟩ => ⟨hentries, hempty, hresult, hclean⟩⟩

def BaselinePasses (matrix : Block) : Prop :=
  (matrix.result ≠ "" → Passes matrix.result) ∧ ∀ entry ∈ matrix.entries,
    entry.baseline = true → Passes entry.status ∨ NotApplicable entry

theorem clean_evaluateHardGate_matrix {matrix : Block} :
    Clean (evaluateHardGate true matrix reasons) ↔ BaselinePasses matrix ∧ Clean reasons := by
  unfold evaluateHardGate
  dsimp only
  rw [clean_foldl_addIf (by decide), clean_addIf (by decide), clean_addIf (by decide),
    BaselinePasses]
  simp only [Passes, NotApplicable, Bool.not_true, Bool.false_or, Bool.true_eq_false, false_and,
    true_and, not_false_eq_true, not_and, not_not, decide_eq_true_eq, Classical.not_imp,
    ← or_iff_not_imp_left]
  exact ⟨fun ⟨hentries, hresult, hclean⟩ => ⟨⟨hresult, hentries⟩, hclean⟩,
    fun ⟨⟨hresult, hentries⟩, hclean⟩ => ⟨hentries, hresult, hclean⟩⟩

theorem matrixLoop_eq_some_iff {entries : List Entry} : ∀ {ids : List String} {count result : ℕ},
    matrixLoop ids count entries = some result
      ↔ (∀ entry ∈ entries, entry.id ≠ "" ∧ entry.id ∉ ids) ∧
        (entries.map Entry.id).Nodup ∧ count + entries.countP Entry.baseline = result := by
  induction entries with
  | nil => simp [matrixLoop]
  | cons entry entries ih =>
    intro ids count result
    rw [matrixLoop, List.forall_mem_cons, List.map_cons, List.nodup_cons, List.countP_cons]
    by_cases hid : entry.id = "" ∨ entry.id ∈ ids
    · rw [if_pos hid]
      simp only [reduceCtorEq, false_iff]
      exact fun h => hid.elim h.1.1.1 h.1.1.2
    · rw [if_neg hid, ih]
      have hcount : (if entry.baseline = true then count + 1 else count)
          + entries.countP Entry.baseline
          = count + (entries.countP Entry.baseline + if entry.baseline = true then 1 else 0) := by
        split_ifs <;> omega
      rw [hcount]
      rw [not_or] at hid
      constructor
      · rintro ⟨hids, hnodup, hresult⟩
        refine ⟨⟨hid, fun other hother => ⟨(hids other hother).1, fun hmem =>
          (hids other hother).2 (List.mem_cons_of_mem _ hmem)⟩⟩, ⟨fun hmem => ?_, hnodup⟩, hresult⟩
        obtain ⟨other, hother, heq⟩ := List.mem_map.mp hmem
        exact (hids other hother).2 (heq ▸ List.mem_cons_self)
      · rintro ⟨⟨-, hids⟩, ⟨hfirst, hnodup⟩, hresult⟩
        refine ⟨fun other hother => ⟨(hids other hother).1, fun hmem => ?_⟩, hnodup, hresult⟩
        rcases List.mem_cons.mp hmem with heq | hmem
        · exact hfirst (heq ▸ List.mem_map_of_mem hother)
        · exact (hids other hother).2 hmem

theorem matrixIsComplete_iff {entries : List Entry} :
    matrixIsComplete entries = true
      ↔ entries.length = 104 ∧ (∀ entry ∈ entries, entry.id ≠ "") ∧
        (entries.map Entry.id).Nodup ∧ entries.countP Entry.baseline = 101 := by
  simp [matrixIsComplete, matrixLoop_eq_some_iff]

def StatesExpected (matrix : Block) : Prop :=
  matrixIsComplete matrix.entries = true ∧ matrix.exceptions = [] ∧
    ∀ entry ∈ matrix.entries, (normalizeStatus entry.status = "pending" → Pending entry) ∧
      (normalizeStatus entry.status = "n-a" → NotApplicable entry)

theorem clean_evaluateMatrixEntry (reasons : ReasonSet) (entry : Entry) :
    Clean (evaluateMatrixEntry reasons entry)
      ↔ ((normalizeStatus entry.status = "pending" → Pending entry) ∧
        (normalizeStatus entry.status = "n-a" → NotApplicable entry)) ∧ Clean reasons := by
  unfold evaluateMatrixEntry
  dsimp only
  split_ifs with hpending hna
  · rw [clean_addIf (by decide)]
    simp [Pending, hpending]
  · rw [clean_addIf (by decide)]
    simp [NotApplicable, hna]
  · simp [hpending, hna]

theorem clean_evaluateMatrix {matrix : Option Block} :
    Clean (evaluateMatrix matrix reasons)
      ↔ (∀ b ∈ matrix, StatesExpected b) ∧ Clean reasons := by
  cases matrix with
  | none => simp [evaluateMatrix]
  | some matrix =>
    unfold evaluateMatrix
    dsimp only
    rw [clean_foldl _ clean_evaluateMatrixEntry, clean_addIf (by decide), clean_addIf (by decide),
      not_not, not_not]
    simp only [StatesExpected, Option.mem_some_iff, forall_eq']
    exact ⟨fun ⟨hentries, hexceptions, hcomplete, hclean⟩ => ⟨⟨hcomplete, hexceptions, hentries⟩,
      hclean⟩, fun ⟨⟨hcomplete, hexceptions, hentries⟩, hclean⟩ => ⟨hentries, hexceptions,
      hcomplete, hclean⟩⟩

theorem matrixPasses_tolerated_iff {matrix : Block} :
    MatrixPasses Tolerated matrix ↔ BaselinePasses matrix ∧ StatesExpected matrix := by
  rw [StatesExpected, matrixIsComplete_iff]
  constructor
  · intro h
    exact ⟨⟨h.result, fun entry hentry => (h.entries entry hentry).1⟩,
      ⟨h.length, h.ids, h.nodup, h.baseline⟩, h.exceptions,
      fun entry hentry => (h.entries entry hentry).2⟩
  · rintro ⟨⟨hresult, hbaseline⟩, ⟨hlength, hids, hnodup, hcount⟩, hexceptions, hentries⟩
    exact ⟨hresult, hlength, hcount, hnodup, hids, hexceptions,
      fun entry hentry => ⟨hbaseline entry hentry, hentries entry hentry⟩⟩

theorem clean_evaluateRequired {candidateSHA : String} (reasons : ReasonSet)
    (block : Option Block) : Clean (evaluateRequired candidateSHA reasons block)
      ↔ (∃ b, block = some b ∧ b.candidateSHA = candidateSHA) ∧ Clean reasons := by
  cases block with
  | none => simpa [evaluateRequired] using not_clean_cons (by decide)
  | some block => simp [evaluateRequired, clean_addIf]

theorem clean_evaluateGate (reasons : ReasonSet) (gate : Bool × Option Block) :
    Clean (evaluateGate reasons gate)
      ↔ (∀ b ∈ gate.2, bif gate.1 then BaselinePasses b else GatePasses b) ∧ Clean reasons := by
  obtain ⟨isMatrix, block⟩ := gate
  cases block with
  | none => simp [evaluateGate]
  | some block =>
    cases isMatrix with
    | false => simp [evaluateGate, clean_evaluateHardGate]
    | true => simp [evaluateGate, clean_evaluateHardGate_matrix]

theorem clean_evaluateRTC {rtc : Option Block} :
    Clean (evaluateRTC rtc reasons)
      ↔ (∀ b ∈ rtc, hasJSONData b.summary = true) ∧ Clean reasons := by
  cases rtc with
  | none => simp [evaluateRTC]
  | some rtc => simp [evaluateRTC, clean_addIf]

theorem clean_evaluateEvidence {candidateSHA : String} {evidence : Evidence} :
    Clean (evaluateEvidence .final candidateSHA evidence reasons)
      ↔ EvidencePasses Tolerated candidateSHA evidence ∧ Clean reasons := by
  unfold evaluateEvidence
  dsimp only
  rw [clean_evaluateRTC, clean_evaluateMatrix, clean_foldl _ clean_evaluateGate,
    clean_foldl _ clean_evaluateRequired]
  constructor
  · rintro ⟨hrtc, hstates, hgates, hrequired, hclean⟩
    simp only [hardGateEvidence, List.forall_mem_cons, cond_true, cond_false] at hgates
    obtain ⟨hpackage, hcheckFull, hbaseline, hrange, hnative, -⟩ := hgates
    refine ⟨⟨hrequired, ?_, fun b hb => ?_, hrtc⟩, hclean⟩
    · simpa using ⟨hpackage, hcheckFull, hrange, hnative⟩
    · exact matrixPasses_tolerated_iff.mpr ⟨hbaseline b hb, hstates b hb⟩
  · rintro ⟨⟨hrequired, hgates, hmatrix, hrtc⟩, hclean⟩
    have hmatrix' := fun b hb => matrixPasses_tolerated_iff.mp (hmatrix b hb)
    simp only [List.forall_mem_cons] at hgates
    obtain ⟨hpackage, hcheckFull, hrange, hnative, -⟩ := hgates
    refine ⟨hrtc, fun b hb => (hmatrix' b hb).2, ?_, hrequired, hclean⟩
    simpa [hardGateEvidence] using
      ⟨hpackage, hcheckFull, fun b hb => (hmatrix' b hb).1, hrange, hnative⟩

theorem clean_evaluateManualReview {review : Option ManualReview} :
    Clean (evaluateManualReview review reasons)
      ↔ (∃ r, review = some r ∧ r.complete = true ∧ Passes r.result) ∧ Clean reasons := by
  cases review with
  | none => simpa [evaluateManualReview] using not_clean_cons (by decide)
  | some review =>
    unfold evaluateManualReview
    dsimp only
    cases hcomplete : review.complete with
    | false => simpa [hcomplete] using not_clean_cons (by decide)
    | true => simp [hcomplete, clean_addIf, Passes]

theorem clean_evaluateFinalRounds {input : Input} :
    Clean (evaluateFinalRounds input reasons) ↔ Ordered input.rounds ∧ Clean reasons := by
  unfold evaluateFinalRounds
  split
  · next first second hrounds =>
    by_cases hsequence : first.sequence ≠ 1 ∨ second.sequence ≠ 2
    · rw [if_pos hsequence]
      refine iff_of_false (not_clean_cons (by decide)) fun h => ?_
      obtain ⟨⟨first', second', heq, hfirst, hsecond, -⟩, -⟩ := h
      obtain ⟨rfl, hrest⟩ := List.cons_eq_cons.mp (hrounds.symm.trans heq)
      obtain ⟨rfl, -⟩ := List.cons_eq_cons.mp hrest
      exact hsequence.elim (fun h => h hfirst) fun h => h hsecond
    · rw [if_neg hsequence, clean_addIf (by decide), clean_foldl_addIf (by decide)]
      simp only [not_not]
      rw [not_or, not_not, not_not] at hsequence
      constructor
      · rintro ⟨hlate, hall, hclean⟩
        refine ⟨⟨first, second, hrounds, hsequence.1, hsequence.2, hall, ?_⟩, hclean⟩
        have hfirst := (hall first (by simp [hrounds])).2
        have hsecond := (hall second (by simp [hrounds])).2
        rw [timingValid, decide_eq_true_eq] at hfirst hsecond
        exact Int.not_lt.mp fun hlt => hlate ⟨hfirst.2.1, hsecond.1, hlt⟩
      · rintro ⟨⟨first', second', heq, -, -, hall, hle⟩, hclean⟩
        obtain ⟨rfl, hrest⟩ := List.cons_eq_cons.mp (hrounds.symm.trans heq)
        obtain ⟨rfl, -⟩ := List.cons_eq_cons.mp hrest
        exact ⟨fun hlate => absurd hle (Int.not_le.mpr hlate.2.2), hall, hclean⟩
  · next hrounds =>
    refine iff_of_false (not_clean_cons (by decide)) fun h => ?_
    obtain ⟨⟨first, second, heq, -⟩, -⟩ := h
    exact hrounds first second heq

end Checks

theorem clean_evaluateRound {input : Input} (hfinal : input.profile = .final)
    (reasons : ReasonSet) (round : Round) : Clean (evaluateRound input reasons round)
      ↔ RoundPasses Tolerated input.candidateSHA round ∧ Clean reasons := by
  unfold evaluateRound
  simp only [hfinal]
  rw [clean_evaluateManualReview, clean_evaluateEvidence, clean_addIf (by decide),
    clean_addIf (by decide), not_not, not_not]
  exact ⟨fun ⟨hreview, hevidence, hsha, hvalid, hclean⟩ => ⟨⟨hvalid, hsha, hevidence, hreview⟩,
    hclean⟩, fun ⟨⟨hvalid, hsha, hevidence, hreview⟩, hclean⟩ => ⟨hreview, hevidence, hsha, hvalid,
    hclean⟩⟩

theorem evaluate_go_iff {input : Input} :
    (evaluate input).verdict = .go ↔ Accepted Tolerated input := by
  have hverdict : (evaluate input).verdict = .go
      ↔ Clean (reasonsOf input) ∧ input.profile = .final ∧ input.gitHubActions = false := by
    unfold evaluate
    dsimp only
    rw [← hasFailure_eq_false_iff]
    cases (reasonsOf input).hasFailure <;> cases input.profile <;> cases input.gitHubActions <;>
      simp
  have hclean : input.profile = .final → input.gitHubActions = false →
      (Clean (reasonsOf input) ↔ Ordered input.rounds ∧
        ∀ round ∈ input.rounds, RoundPasses Tolerated input.candidateSHA round) := by
    intro hfinal hactions
    unfold reasonsOf
    simp only [hfinal, hactions, ReasonSet.addIf, Bool.false_eq_true, if_false]
    rw [clean_foldl _ (clean_evaluateRound hfinal), clean_evaluateFinalRounds]
    simp [Clean, and_comm]
  rw [hverdict]
  constructor
  · rintro ⟨h, hfinal, hactions⟩
    obtain ⟨hordered, hpasses⟩ := (hclean hfinal hactions).mp h
    exact ⟨hfinal, hactions, hordered, hpasses⟩
  · intro h
    exact ⟨(hclean h.final h.gitHubActions).mpr ⟨h.ordered, h.passes⟩, h.final, h.gitHubActions⟩

/-- No entry outside the baseline has failed, or has a status that nobody knows. -/
def KnownOutsideBaseline (input : Input) : Prop :=
  ∀ round ∈ input.rounds, ∀ matrix ∈ round.evidence.matrix, ∀ entry ∈ matrix.entries,
    entry.baseline = false → normalizeStatus entry.status ∈ ["pass", "pending", "n-a"]

theorem Accepted.imp {P Q : Entry → Prop} {input : Input} (h : Accepted P input)
    (himp : ∀ round ∈ input.rounds, ∀ matrix ∈ round.evidence.matrix, ∀ entry ∈ matrix.entries,
      P entry → Q entry) : Accepted Q input :=
  { h with
    passes := fun round hround =>
      { h.passes round hround with
        evidence :=
          { (h.passes round hround).evidence with
            matrix := fun matrix hmatrix =>
              { (h.passes round hround).evidence.matrix matrix hmatrix with
                entries := fun entry hentry => himp round hround matrix hmatrix entry hentry
                  (((h.passes round hround).evidence.matrix matrix hmatrix).entries entry
                    hentry) } } } }

theorem settled_of_tolerated {entry : Entry} (h : Tolerated entry)
    (hknown : entry.baseline = false →
      normalizeStatus entry.status ∈ ["pass", "pending", "n-a"]) : Settled entry := by
  obtain ⟨hbaseline, hpending, hna⟩ := h
  cases hcase : entry.baseline with
  | true => exact (hbaseline hcase).imp_right .inl
  | false =>
    have hstatus := hknown hcase
    simp only [List.mem_cons, List.not_mem_nil, or_false] at hstatus
    rcases hstatus with hpass | hp | hn
    · exact .inl hpass
    · exact .inr (.inr (hpending hp))
    · exact .inr (.inl (hna hn))

theorem Settled.known {entry : Entry} (h : Settled entry) :
    normalizeStatus entry.status ∈ ["pass", "pending", "n-a"] := by
  rcases h with h | h | h
  · simp [show normalizeStatus entry.status = "pass" from h]
  · simp [h.1]
  · simp [h.1]

/-- A GO means that the candidate is accepted exactly when no entry outside the baseline has failed,
or a check stands against it anyway. -/
theorem go_sound_iff (input : Input) :
    ((evaluate input).verdict = .go → Accepted Settled input)
      ↔ KnownOutsideBaseline input ∨ ¬ Accepted Tolerated input := by
  rw [evaluate_go_iff]
  constructor
  · intro h
    rw [or_iff_not_imp_right, not_not]
    intro haccepted round hround matrix hmatrix entry hentry _
    exact ((((h haccepted).passes round hround).evidence.matrix matrix hmatrix).entries entry
      hentry).known
  · rintro (hknown | hnot) haccepted
    · exact haccepted.imp fun round hround matrix hmatrix entry hentry htolerated =>
        settled_of_tolerated htolerated (hknown round hround matrix hmatrix entry hentry)
    · exact absurd haccepted hnot

section Failing

def failingEntries : List Entry :=
  (List.range 101).map (fun i => ⟨String.ofList (List.replicate (i + 1) 'x'), true, "pass"⟩) ++
    [⟨"AC-03-F6", false, "fail"⟩, ⟨"AC-08-S8", false, "pass"⟩, ⟨"AC-01-D1", false, "pass"⟩]

def failingRound (sequence : ℤ) : Round :=
  let block : Block := { candidateSHA := "c0ffee", result := "pass", summary := some (.bool true) }
  { sequence := sequence, candidateSHA := "c0ffee", valid := true, startedAt := 2 * sequence
    finishedAt := 2 * sequence + 1, environment := some (.bool true)
    evidence :=
      { package := some block, checkFull := some block, pgRange := some block, rtc := some block
        linuxNative := some block, matrix := some { block with entries := failingEntries } }
    manualReview := some
      { operator := "operator", at_ := 9, result := "pass", screenshotIndex := ["1.png"]
        residualRisks := some [] } }

def failingInput : Input where
  candidateSHA := "c0ffee"
  profile := .final
  gitHubActions := false
  rounds := [failingRound 1, failingRound 2]

theorem nodup_failingEntries : (failingEntries.map Entry.id).Nodup := by
  rw [failingEntries, List.map_append, List.map_map, List.nodup_append]
  refine ⟨List.Nodup.map (fun i j h => ?_) List.nodup_range, by decide, ?_⟩
  · simpa using congrArg List.length (String.ofList_injective h)
  · intro id hid other hother heq
    obtain ⟨i, -, rfl⟩ := List.mem_map.mp hid
    have hfirst : ∀ other ∈ ["AC-03-F6", "AC-08-S8", "AC-01-D1"],
        other.toList.head? ≠ some 'x' := by decide
    exact hfirst other hother (by rw [← heq]; simp [List.replicate_succ])

theorem passes_pass : Passes "pass" := by
  unfold Passes
  decide

theorem tolerated_failingEntries : ∀ entry ∈ failingEntries, entry.id ≠ "" ∧ Tolerated entry := by
  have hpass : normalizeStatus "pass" = "pass" := passes_pass
  have hfail : normalizeStatus "fail" = "fail" := by decide
  intro entry hentry
  rcases List.mem_append.mp hentry with hentry | hentry
  · obtain ⟨i, -, rfl⟩ := List.mem_map.mp hentry
    refine ⟨fun heq => ?_, by simp [Tolerated, Passes, hpass]⟩
    simpa [List.replicate_succ] using congrArg String.toList heq
  · simp only [List.mem_cons, List.not_mem_nil, or_false] at hentry
    rcases hentry with rfl | rfl | rfl <;> simp [Tolerated, Passes, hpass, hfail]

theorem accepted_failingInput : Accepted Tolerated failingInput := by
  have hround : ∀ sequence, RoundPasses Tolerated "c0ffee" (failingRound sequence) := by
    intro sequence
    refine ⟨rfl, rfl, ⟨?_, ?_, ?_, ?_⟩, _, rfl, by decide, passes_pass⟩
    · simp [failingRound, requiredEvidence]
    · simp [failingRound, GatePasses, passes_pass]
    · rintro _ ⟨⟩
      exact ⟨fun _ => passes_pass, by simp [failingEntries], by decide +kernel,
        nodup_failingEntries, fun entry hentry => (tolerated_failingEntries entry hentry).1, rfl,
        fun entry hentry => (tolerated_failingEntries entry hentry).2⟩
    · rintro _ ⟨⟩
      rfl
  refine ⟨rfl, rfl, ⟨_, _, rfl, rfl, rfl, ?_, by decide⟩, ?_⟩
  · simp [failingInput, failingRound, hasJSONData, timingValid]
  · simpa [failingInput] using ⟨hround 1, hround 2⟩

theorem go_with_failed_entry :
    ¬ ((evaluate failingInput).verdict = .go → Accepted Settled failingInput) := by
  intro h
  have haccepted := h (evaluate_go_iff.mpr accepted_failingInput)
  have hfailed : (⟨"AC-03-F6", false, "fail"⟩ : Entry) ∈ failingEntries := by
    simp [failingEntries]
  have hmatrix := (haccepted.passes (failingRound 1) List.mem_cons_self).evidence.matrix _ rfl
  exact absurd (hmatrix.entries _ hfailed).known (by decide)

end Failing

end DbsMonitor.AcceptanceReport
