import SqlGateway.Postgres.AuditLines
import SqlGateway.Postgres.ConcurrentRequests

namespace SqlGateway.Postgres.ConcurrentRequests

open ExecuteQueryUseCase ObservabilityEntryDto QueryExecutor Sql
open Interleaving (Within)

/-! What is recorded of a request: of its query only the redaction and the verdict -/

section Made

variable {Connection Database Data : Type}

inductive MadeFor (gateway : Gateway Connection Database) (request : Request) :
    ObservabilityEntryDto → Prop
  | rejected {redactedQuery : String} {verdict : ValidationResultDto} :
    scrub gateway.sqlglot dialect request.queryText = .ok redactedQuery →
    validate gateway.sqlglot dialect gateway.registry request.queryText = .ok verdict →
    verdict.isAllowed = false →
    MadeFor gateway request (rejectedEntry request.clock request.requestId redactedQuery verdict)
  | allowed {redactedQuery : String} {outcome : QueryOutcomeDto} :
    scrub gateway.sqlglot dialect request.queryText = .ok redactedQuery →
    MadeFor gateway request
      (allowedEntry request.clock gateway.maxSampleRows request.requestId redactedQuery outcome)
  | dbError {redactedQuery : String} {outcome : QueryOutcomeDto} :
    scrub gateway.sqlglot dialect request.queryText = .ok redactedQuery →
    MadeFor gateway request (dbErrorEntry request.clock request.requestId redactedQuery outcome)

variable {gateway : Gateway Connection Database} {access : Access Connection Database Data}
  {request : Request}

def OnlyMade (gateway : Gateway Connection Database) (request : Request)
    (happenings : List (Happening Data)) : Prop :=
  ∀ entry, Happening.recorded entry ∈ happenings → MadeFor gateway request entry

theorem onlyMade_nil : OnlyMade gateway request ([] : List (Happening Data)) :=
  fun _ hentry => absurd hentry List.not_mem_nil

theorem OnlyMade.concat {happenings : List (Happening Data)} {entry : ObservabilityEntryDto}
    (h : OnlyMade gateway request happenings) (hmade : MadeFor gateway request entry) :
    OnlyMade gateway request (happenings ++ [.recorded entry]) := by
  intro other hother
  rcases List.mem_append.mp hother with hbefore | hlast
  · exact h other hbefore
  · cases List.mem_singleton.mp hlast
    exact hmade

theorem within_onlyMade (h : Transactional gateway.psycopg access.store gateway.Accepts)
    (connection : Connection) :
    Within access.setting (OnlyMade gateway request) (fun _ _ _ => True) (gateway.program request)
      connection [] := by
  have hnone : OnlyMade gateway request ([] : List (Happening Data)) := onlyMade_nil
  apply (within_ofResult hnone _ connection).bind _ fun _ _ _ _ => trivial
  rintro redactedQuery c₁ _ - ⟨hscrub, -, rfl⟩
  apply (within_ofResult hnone _ c₁).bind _ fun _ _ _ _ => trivial
  rintro verdict c₂ _ - ⟨hvalidate, -, rfl⟩
  cases hallowed : verdict.isAllowed with
  | false =>
    exact within_record (fun _ => rfl) hnone
      (hnone.concat (.rejected hscrub hvalidate hallowed)) trivial
  | true =>
    have haccepts (queryText : Json.Text) (hquery : request.queryText = .str queryText) :
        gateway.Accepts queryText := ⟨verdict, hquery ▸ hvalidate, hallowed⟩
    have hexecutor := within_executor hnone h gateway.queryTimeoutMs gateway.maxResults
      request.queryText haccepts (fun _ _ _ _ hentry => nomatch List.mem_singleton.mp hentry) c₂
    apply hexecutor.bind _ fun _ _ _ _ => trivial
    intro outcome c₃ events hmade _
    by_cases hsucceeded : outcome.succeeded = true
    · rw [if_pos hsucceeded]
      exact within_record (fun _ => rfl) hmade (hmade.concat (.allowed hscrub)) trivial
    · rw [if_neg hsucceeded]
      exact within_record (fun _ => rfl) hmade (hmade.concat (.dbError hscrub)) trivial

theorem exists_madeFor {ι : Type} [DecidableEq ι]
    (h : Transactional gateway.psycopg access.store gateway.Accepts) {requests : ι → Request} {connections : ι → Connection} {database : Database} {turns : List ι}
    {s : State Connection Database ι}
    (hrun : Transition.Run (Interleaving.Step access.setting)
      (start gateway requests connections database) turns s) :
    ∀ entry ∈ s.shared.2, ∃ i, MadeFor gateway (requests i) entry := by
  obtain ⟨order, hexplained⟩ := Interleaving.run_explained hrun
    fun i => within_onlyMade h (connections i)
  intro entry hentry
  rw [(log_of_view hexplained.view).2, mem_entries_iff] at hentry
  obtain ⟨i, hmem⟩ := hentry
  exact ⟨i, (hexplained.within i).always entry hmem⟩

theorem MadeFor.requestId {entry : ObservabilityEntryDto} (h : MadeFor gateway request entry) :
    entry.requestId = request.requestId := by
  cases h <;> rfl

end Made

/-- The same query, or two that the gateway accepts whose statements differ in literals only, none
of which goes into a sensitive column of one statement alone. -/
inductive SameButLiterals (sqlglot : Sqlglot) (registry : RuleRegistry) :
    QueryPayload → QueryPayload → Prop
  | same {payload : QueryPayload} : SameButLiterals sqlglot registry payload payload
  | literals {text₁ text₂ : Json.Text} {s₁ s₂ : Expression} :
    Accepts sqlglot dialect registry (.str text₁) → Accepts sqlglot dialect registry (.str text₂) →
    sqlglot.statements text₁ dialect = [s₁] → sqlglot.statements text₂ dialect = [s₂] →
    (sqlglot.StartsEmpty text₁ dialect ↔ sqlglot.StartsEmpty text₂ dialect) →
    s₁.eraseConstants = s₂.eraseConstants → s₁.eraseLiterals = s₂.eraseLiterals →
    (∀ address ∈ s₁.literalAddresses,
      (AssignedSensitive s₁ address ↔ AssignedSensitive s₂ address)) →
    SameButLiterals sqlglot registry (.str text₁) (.str text₂)

variable {sqlglot : Sqlglot} {classes : List RuleClass} {payload₁ payload₂ : QueryPayload}

theorem SameButLiterals.scrub_eq (hclasses : classes.Perm ruleClasses)
    (h : SameButLiterals sqlglot (.registerAll dialect classes) payload₁ payload₂) :
    scrub sqlglot dialect payload₁ = scrub sqlglot dialect payload₂ := by
  cases h with
  | same => rfl
  | @literals text₁ text₂ s₁ s₂ haccepts₁ haccepts₂ h₁ h₂ hempty hshape hliterals hsensitive =>
    by_cases hstarts : sqlglot.StartsEmpty text₁ dialect
    · rw [scrub_of_startsEmpty hstarts, scrub_of_startsEmpty (hempty.mp hstarts)]
    · have hroot₁ := isLiteral_of_accepts hclasses haccepts₁ h₁
      have hroot₂ := isLiteral_of_accepts hclasses haccepts₂ h₂
      have hredacted : redacted s₁ = redacted s₂ :=
        (redacted_eq_iff hshape hroot₁ hroot₂).mpr ⟨hliterals, hsensitive⟩
      rw [scrub_of_one h₁ hroot₁ hstarts, scrub_of_one h₂ hroot₂ (mt hempty.mpr hstarts), hredacted]

theorem SameButLiterals.rejection_eq {registry : RuleRegistry}
    (h : SameButLiterals sqlglot registry payload₁ payload₂)
    {verdict₁ verdict₂ : ValidationResultDto}
    (h₁ : validate sqlglot dialect registry payload₁ = .ok verdict₁)
    (h₂ : validate sqlglot dialect registry payload₂ = .ok verdict₂)
    (hrejected : verdict₁.isAllowed = false) : verdict₁ = verdict₂ := by
  cases h with
  | same => exact Except.ok.inj (h₁.symm.trans h₂)
  | literals haccepts =>
    obtain ⟨verdict, hverdict, hallowed⟩ := haccepts
    rw [hverdict] at h₁
    rw [Except.ok.inj h₁, hrejected] at hallowed
    cases hallowed

/-- What an entry reports of how a request has ended. -/
structure SameEnding (first second : ObservabilityEntryDto) : Prop where
  requestId : first.requestId = second.requestId
  decision : first.decision = second.decision
  rowsReturned : first.rowsReturned = second.rowsReturned
  rowsAffected : first.rowsAffected = second.rowsAffected
  rowsWereTruncated : first.rowsWereTruncated = second.rowsWereTruncated
  dbErrorMessage : first.dbErrorMessage = second.dbErrorMessage
  dbErrorCode : first.dbErrorCode = second.dbErrorCode

section TwoRuns

variable {Connection₁ Database₁ Data₁ Connection₂ Database₂ Data₂ : Type}
  {gateway₁ : Gateway Connection₁ Database₁} {gateway₂ : Gateway Connection₂ Database₂}

theorem sameAuditLines_of_madeFor (hsqlglot : gateway₁.sqlglot = gateway₂.sqlglot)
    (hclasses : classes.Perm ruleClasses)
    (hregistry₁ : gateway₁.registry = .registerAll dialect classes)
    (hregistry₂ : gateway₂.registry = .registerAll dialect classes) {request₁ request₂ : Request}
    (hqueries : SameButLiterals gateway₁.sqlglot gateway₁.registry request₁.queryText
      request₂.queryText) {entry₁ entry₂ : ObservabilityEntryDto}
    (h₁ : MadeFor gateway₁ request₁ entry₁) (h₂ : MadeFor gateway₂ request₂ entry₂)
    (hending : SameEnding entry₁ entry₂) (clock : ClockReadings) :
    SameAuditLines (entry₁.atTime clock) (entry₂.atTime clock) := by
  have hscrub := (hregistry₁ ▸ hqueries).scrub_eq hclasses
  have hrequestId : request₁.requestId = request₂.requestId :=
    h₁.requestId.symm.trans (hending.requestId.trans h₂.requestId)
  have hredacted {redacted₁ redacted₂ : String}
      (h₁ : scrub gateway₁.sqlglot dialect request₁.queryText = .ok redacted₁)
      (h₂ : scrub gateway₂.sqlglot dialect request₂.queryText = .ok redacted₂) :
      redacted₁ = redacted₂ := by
    rw [hscrub, hsqlglot, h₂] at h₁
    exact (Except.ok.inj h₁).symm
  apply sameAuditLines_iff.mpr
  rw [← jsonLine_withoutResultData]
  conv_rhs => rw [← jsonLine_withoutResultData]
  congr 1
  cases h₁ with
  | rejected hscrub₁ hvalidate₁ hrejected =>
    cases h₂ with
    | rejected hscrub₂ hvalidate₂ =>
      rw [← hsqlglot, hregistry₂, ← hregistry₁] at hvalidate₂
      rw [hredacted hscrub₁ hscrub₂, hqueries.rejection_eq hvalidate₁ hvalidate₂ hrejected,
        hrequestId]
      rfl
    | allowed => cases hending.decision
    | dbError => cases hending.decision
  | allowed hscrub₁ =>
    cases h₂ with
    | rejected => cases hending.decision
    | allowed hscrub₂ =>
      have hrows := hending.rowsReturned
      have haffected := hending.rowsAffected
      have htruncated := hending.rowsWereTruncated
      simp only [allowedEntry] at hrows haffected htruncated
      simp only [allowedEntry, atTime, withoutResultData, hredacted hscrub₁ hscrub₂, hrequestId,
        hrows, haffected, htruncated, Option.map_some]
    | dbError => cases hending.decision
  | dbError hscrub₁ =>
    cases h₂ with
    | rejected => cases hending.decision
    | allowed => cases hending.decision
    | dbError hscrub₂ =>
      have hmessage := hending.dbErrorMessage
      have hcode := hending.dbErrorCode
      simp only [dbErrorEntry] at hmessage hcode
      simp only [dbErrorEntry, atTime, withoutResultData, hredacted hscrub₁ hscrub₂, hrequestId,
        hmessage, hcode, Option.map_some]

variable {ι : Type} [DecidableEq ι] {access₁ : Access Connection₁ Database₁ Data₁}
  {access₂ : Access Connection₂ Database₂ Data₂}

/-- Two runs, on databases with other data, of requests whose queries differ in literals: where a
request has ended alike, nothing in its audit lines tells the runs apart but the stamps. -/
theorem audit_lines_agree (hsqlglot : gateway₁.sqlglot = gateway₂.sqlglot)
    (hclasses : classes.Perm ruleClasses)
    (hregistry₁ : gateway₁.registry = .registerAll dialect classes)
    (hregistry₂ : gateway₂.registry = .registerAll dialect classes)
    (h₁ : Transactional gateway₁.psycopg access₁.store gateway₁.Accepts)
    (h₂ : Transactional gateway₂.psycopg access₂.store gateway₂.Accepts)
    {requests₁ requests₂ : ι → Request}
    (hids : ∀ i, (requests₁ i).requestId = (requests₂ i).requestId)
    (hdistinct : Function.Injective fun i => (requests₁ i).requestId)
    (hqueries : ∀ i, SameButLiterals gateway₁.sqlglot gateway₁.registry (requests₁ i).queryText
      (requests₂ i).queryText)
    {connections₁ : ι → Connection₁} {connections₂ : ι → Connection₂} {database₁ : Database₁}
    {database₂ : Database₂} {turns₁ turns₂ : List ι} {s₁ : State Connection₁ Database₁ ι}
    {s₂ : State Connection₂ Database₂ ι}
    (hrun₁ : Transition.Run (Interleaving.Step access₁.setting)
      (start gateway₁ requests₁ connections₁ database₁) turns₁ s₁)
    (hrun₂ : Transition.Run (Interleaving.Step access₂.setting)
      (start gateway₂ requests₂ connections₂ database₂) turns₂ s₂) :
    ∀ entry₁ ∈ s₁.shared.2, ∀ entry₂ ∈ s₂.shared.2, SameEnding entry₁ entry₂ →
      ∀ clock, SameAuditLines (entry₁.atTime clock) (entry₂.atTime clock) := by
  intro entry₁ hentry₁ entry₂ hentry₂ hending
  obtain ⟨i, hmade₁⟩ := exists_madeFor h₁ hrun₁ entry₁ hentry₁
  obtain ⟨j, hmade₂⟩ := exists_madeFor h₂ hrun₂ entry₂ hentry₂
  have hsame : i = j := by
    apply hdistinct
    calc (requests₁ i).requestId = entry₁.requestId := hmade₁.requestId.symm
      _ = entry₂.requestId := hending.requestId
      _ = (requests₂ j).requestId := hmade₂.requestId
      _ = (requests₁ j).requestId := (hids j).symm
  subst hsame
  exact sameAuditLines_of_madeFor hsqlglot hclasses hregistry₁ hregistry₂ (hqueries i) hmade₁ hmade₂
    hending

end TwoRuns

def deleteUser (id : String) : Expression :=
  .node .delete [] [(.this, table "users"),
    (.whereClause, .node .whereClause []
      [(.this, .node .eq [] [(.this, column "id"), (.expression, .constant .number id)])])]

def usersGateway : Gateway Pending (List Pending) :=
  { counterGateway with
    sqlglot := .ofTable
      [("DELETE FROM users WHERE id = 7", [some (deleteUser "7")]),
        ("DELETE FROM users WHERE id = 8", [some (deleteUser "8")])] }

def deleteOf (queryText : Json.Text) (timestamp : String) (second : Bool) : Request where
  queryText := .str queryText
  requestId := if second then "1" else "0"
  clock := ⟨timestamp, ⟨false, 1, [.last 9], none⟩⟩

def requestsOfNoon : Bool → Request := deleteOf "DELETE FROM users WHERE id = 7" "12:00"

def requestsOfMidnight : Bool → Request := deleteOf "DELETE FROM users WHERE id = 8" "00:00"

def afterTurns (requests : Bool → Request) (database : List Pending) (first : Bool) :
    State Pending (List Pending) Bool :=
  (List.replicate 12 [first, !first]).flatten.foldl (Interleaving.State.turn counterAccess.setting)
    (start usersGateway requests (fun _ => []) database)

theorem run_afterTurns (requests : Bool → Request) (database : List Pending) (first : Bool) :
    ∃ turns, Transition.Run (Interleaving.Step counterAccess.setting)
      (start usersGateway requests (fun _ => []) database) turns
        (afterTurns requests database first) :=
  Interleaving.run_turns _ _

theorem sameButLiterals_deletes : SameButLiterals usersGateway.sqlglot usersGateway.registry
    (.str "DELETE FROM users WHERE id = 7") (.str "DELETE FROM users WHERE id = 8") := by
  have h₇ : usersGateway.sqlglot.statements "DELETE FROM users WHERE id = 7" dialect =
    [deleteUser "7"] := rfl
  have h₈ : usersGateway.sqlglot.statements "DELETE FROM users WHERE id = 8" dialect =
    [deleteUser "8"] := rfl
  have hstarts (text : Json.Text) (h : usersGateway.sqlglot.parse text dialect =
      .ok [some (deleteUser "7")] ∨ usersGateway.sqlglot.parse text dialect =
        .ok [some (deleteUser "8")]) : ¬ usersGateway.sqlglot.StartsEmpty text dialect := by
    rintro ⟨rest, hempty⟩
    rcases h with h | h <;> rw [h] at hempty <;> cases hempty
  refine .literals (accepts_of_statements (List.Perm.refl _) h₇ (by decide) (by decide))
    (accepts_of_statements (List.Perm.refl _) h₈ (by decide) (by decide)) h₇ h₈
    (iff_of_false (hstarts _ (.inl rfl)) (hstarts _ (.inr rfl))) rfl rfl fun address _ => ?_
  rw [← mem_collectSensitiveLiteralIds, ← mem_collectSensitiveLiteralIds]
  exact Iff.rfl

structure DeletedOne (entry : ObservabilityEntryDto) : Prop where
  requestId : entry.requestId = "0"
  decision : entry.decision = .allowed
  rowsReturned : entry.rowsReturned = some 0
  rowsAffected : entry.rowsAffected = some 1
  rowsWereTruncated : entry.rowsWereTruncated = some false
  dbErrorMessage : entry.dbErrorMessage = none
  dbErrorCode : entry.dbErrorCode = none

theorem DeletedOne.sameEnding {first second : ObservabilityEntryDto} (h₁ : DeletedOne first)
    (h₂ : DeletedOne second) : SameEnding first second where
  requestId := h₁.requestId.trans h₂.requestId.symm
  decision := h₁.decision.trans h₂.decision.symm
  rowsReturned := h₁.rowsReturned.trans h₂.rowsReturned.symm
  rowsAffected := h₁.rowsAffected.trans h₂.rowsAffected.symm
  rowsWereTruncated := h₁.rowsWereTruncated.trans h₂.rowsWereTruncated.symm
  dbErrorMessage := h₁.dbErrorMessage.trans h₂.dbErrorMessage.symm
  dbErrorCode := h₁.dbErrorCode.trans h₂.dbErrorCode.symm

theorem audit_lines_agree_deletes :
    ∃ entry₁ ∈ (afterTurns requestsOfNoon [] false).shared.2,
      ∃ entry₂ ∈ (afterTurns requestsOfMidnight [[]] true).shared.2, entry₁.requestId = "0" ∧
        ∀ clock, SameAuditLines (entry₁.atTime clock) (entry₂.atTime clock) := by
  obtain ⟨turns₁, hrun₁⟩ := run_afterTurns requestsOfNoon [] false
  obtain ⟨turns₂, hrun₂⟩ := run_afterTurns requestsOfMidnight [[]] true
  have hdistinct : Function.Injective fun i => (requestsOfNoon i).requestId := by
    intro i j hij
    cases i <;> cases j <;> first | rfl | exact absurd hij (by decide)
  have hsqlglot : usersGateway.sqlglot = usersGateway.sqlglot := rfl
  have hregistry : usersGateway.registry = .registerAll dialect ruleClasses := rfl
  have hids (i : Bool) : (requestsOfNoon i).requestId = (requestsOfMidnight i).requestId := by
    simp only [requestsOfNoon, requestsOfMidnight, deleteOf]
  have hagree := audit_lines_agree hsqlglot (List.Perm.refl _) hregistry hregistry
    transactional_counter transactional_counter hids hdistinct (fun _ => sameButLiterals_deletes)
    hrun₁ hrun₂
  obtain ⟨entry₁, hentry₁, hdeleted₁⟩ :
      ∃ entry ∈ (afterTurns requestsOfNoon [] false).shared.2, DeletedOne entry :=
    ⟨_, List.mem_of_getElem? (i := 0) rfl, ⟨rfl, rfl, rfl, rfl, rfl, rfl, rfl⟩⟩
  obtain ⟨entry₂, hentry₂, hdeleted₂⟩ :
      ∃ entry ∈ (afterTurns requestsOfMidnight [[]] true).shared.2, DeletedOne entry :=
    ⟨_, List.mem_of_getElem? (i := 1) rfl, ⟨rfl, rfl, rfl, rfl, rfl, rfl, rfl⟩⟩
  exact ⟨entry₁, hentry₁, entry₂, hentry₂, hdeleted₁.requestId,
    hagree entry₁ hentry₁ entry₂ hentry₂ (hdeleted₁.sameEnding hdeleted₂)⟩

end SqlGateway.Postgres.ConcurrentRequests
