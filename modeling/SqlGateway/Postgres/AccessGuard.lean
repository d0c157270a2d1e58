import SqlGateway.Postgres.QueryExecutor
import SqlGateway.Postgres.RuleOrder
import SqlGateway.Sql.QueryScrubber

namespace SqlGateway.Postgres

open Sql

def accessGuard {σ : Type} (sqlglot : Sqlglot) (registry : RuleRegistry) (psycopg : Psycopg σ)
    (queryTimeoutMs maxResults : Nat) : AccessGuard σ where
  validator payload := Effect.ofResult (validate sqlglot dialect registry payload)
  scrubber payload := Effect.ofResult (scrub sqlglot dialect payload)
  executor := QueryExecutor.execute psycopg queryTimeoutMs maxResults

section Runs

open ExecuteQueryUseCase QueryExecutor

variable {σ : Type} {sqlglot : Sqlglot} {registry : RuleRegistry} {psycopg : Psycopg σ}
  {queryTimeoutMs maxResults : Nat} {redactedQuery : String} {verdict : ValidationResultDto}
  {s s' : σ}

theorem runs_rejected {payload : QueryPayload}
    (hscrub : scrub sqlglot dialect payload = .ok redactedQuery)
    (hvalidate : validate sqlglot dialect registry payload = .ok verdict)
    (hallowed : verdict.isAllowed = false) :
    Runs (accessGuard sqlglot registry psycopg queryTimeoutMs maxResults) payload s
      (.ok (redactedQuery, verdict, none)) s :=
  .rejected (congrArg (·, s) hscrub) (congrArg (·, s) hvalidate) hallowed

theorem runs_answered {queryText : Json.Text} {answer : DatabaseAnswer}
    (hscrub : scrub sqlglot dialect (.str queryText) = .ok redactedQuery)
    (hvalidate : validate sqlglot dialect registry (.str queryText) = .ok verdict)
    (hallowed : verdict.isAllowed = true)
    (hanswers : Answers psycopg queryTimeoutMs maxResults queryText s answer s') :
    Runs (accessGuard sqlglot registry psycopg queryTimeoutMs maxResults) (.str queryText) s
      (.ok (redactedQuery, verdict, some (outcomeOf maxResults answer))) s' :=
  .executed (congrArg (·, s) hscrub) (congrArg (·, s) hvalidate) hallowed
    (execute_of_answers hanswers)

end Runs

def HasCode (verdict : ValidationResultDto) : Prop :=
  verdict.isAllowed = false → verdict.rejectionCode.isSome = true

theorem hasCode_allow : HasCode .allow := fun h => Bool.noConfusion h

theorem hasCode_rejectWith (code : SqlRejectionCode) (detail : Option Json.Text) :
    HasCode (rejectWith code detail) := fun _ => rfl

theorem hasCode_check {cls : RuleClass} (h : cls ∈ ruleClasses) (statement : Expression) :
    HasCode (cls.check statement) := by
  have hclasses : ruleClasses = ruleCodes.map Prod.fst := rfl
  rw [hclasses] at h
  obtain ⟨rule, hrule, rfl⟩ := List.mem_map.mp h
  intro hrejects
  rw [rejectsWith_ruleCodes rule hrule statement hrejects]
  rfl

/-- The rules' verdict on a statement is to let it pass, or what one of them says. -/
theorem applyRules_induct {P : ValidationResultDto → Prop} (hallow : P .allow)
    {rules : List RuleInstance} {statement : Expression}
    (h : ∀ cls ∈ rules.map RuleInstance.cls, P (cls.check statement)) :
    P (applyRules rules statement) := by
  induction rules with
  | nil => exact hallow
  | cons rule rules ih =>
    rw [List.map_cons, List.forall_mem_cons] at h
    rw [applyRules]
    split_ifs
    · exact ih h.2
    · exact h.1

inductive Validated (sqlglot : Sqlglot) (registry : RuleRegistry) :
    QueryPayload → ValidationResultDto → Prop
  | mismatch {payload : QueryPayload} (detail : String) :
    (∀ queryText, payload ≠ .str queryText) →
    Validated sqlglot registry payload (rejectWith .payloadTypeMismatch (some detail))
  | blank {queryText : Json.Text} :
    isBlank queryText = true → Validated sqlglot registry (.str queryText) (rejectWith .emptyQuery)
  | unparsed {queryText message : Json.Text} : isBlank queryText = false →
    sqlglot.parse queryText dialect = .error (.sqlglotError message) →
    Validated sqlglot registry (.str queryText)
      (rejectWith .parseError (some (compactFirstLine message)))
  | counted {queryText : Json.Text} {parsed : List (Option Expression)} (code : SqlRejectionCode) :
    sqlglot.parse queryText dialect = .ok parsed →
    Validated sqlglot registry (.str queryText) (rejectWith code)
  | checked {queryText : Json.Text} {parsed : List (Option Expression)} (statement : Expression) :
    sqlglot.parse queryText dialect = .ok parsed →
    Validated sqlglot registry (.str queryText)
      (applyRules (registry.rulesFor dialect).1 statement)

theorem validated {sqlglot : Sqlglot} {registry : RuleRegistry} {payload : QueryPayload}
    {verdict : ValidationResultDto} (h : validate sqlglot dialect registry payload = .ok verdict) :
    Validated sqlglot registry payload verdict := by
  cases payload with
  | str queryText =>
    simp only [validate] at h
    split_ifs at h with hblank
    · cases h
      exact .blank hblank
    · split at h
      next hparse =>
        cases h
        exact .unparsed (Bool.eq_false_of_not_eq_true hblank) hparse
      next => cases h
      next hparse =>
        split at h <;> cases h
        · exact .counted _ hparse
        · exact .checked _ hparse
        · exact .counted _ hparse
  | dict fields => cases h; exact .mismatch _ fun _ => QueryPayload.noConfusion
  | list items => cases h; exact .mismatch _ fun _ => QueryPayload.noConfusion

theorem hasCode_validate {order : List RuleClass} (horder : order.Perm ruleClasses)
    {sqlglot : Sqlglot} {payload : QueryPayload} {verdict : ValidationResultDto}
    (h : validate sqlglot dialect (.registerAll dialect order) payload = .ok verdict) :
    HasCode verdict := by
  cases validated h with
  | mismatch | blank | unparsed | counted => exact hasCode_rejectWith _ _
  | checked statement =>
    apply applyRules_induct hasCode_allow
    intro cls hcls
    rw [RuleRegistry.registerAll_rulesFor (by decide)] at hcls
    exact hasCode_check (horder.mem_iff.mp hcls) _

def PlainDetail (verdict : ValidationResultDto) : Prop :=
  ∀ detail ∈ verdict.rejectionDetail, detail.all Json.CodePoint.isChar = true

theorem plainDetail_rejectWith (code : SqlRejectionCode) (detail : Option String) :
    PlainDetail (rejectWith code (detail.map .ofString)) := by
  intro text htext
  obtain ⟨detail, -, rfl⟩ := Option.map_eq_some_iff.mp htext
  exact Json.lenient_isEncodablePart.string detail

theorem plainDetail_check {cls : RuleClass} (h : cls ∈ ruleClasses) (statement : Expression) :
    PlainDetail (cls.check statement) := by
  have hclasses : ruleClasses = ruleCodes.map Prod.fst := rfl
  rw [hclasses] at h
  obtain ⟨rule, hrule, rfl⟩ := List.mem_map.mp h
  exact @check_induct (fun _ verdict => PlainDetail verdict) (fun _ => nofun)
    plainDetail_rejectWith rule hrule statement

/-- What a detail quotes of a text that sqlglot cannot parse holds no lone surrogate. -/
def QuotesNoSurrogate (sqlglot : Sqlglot) (payload : QueryPayload) : Prop :=
  ∀ queryText, payload = .str queryText → isBlank queryText = false →
    ∀ message, sqlglot.parse queryText dialect = .error (.sqlglotError message) →
      (compactFirstLine message).all Json.CodePoint.isChar = true

theorem quotesNoSurrogate_str {sqlglot : Sqlglot} {queryText : Json.Text} :
    QuotesNoSurrogate sqlglot (.str queryText) ↔ (isBlank queryText = false → ∀ message,
      sqlglot.parse queryText dialect = .error (.sqlglotError message) →
        (compactFirstLine message).all Json.CodePoint.isChar = true) := by
  simp only [QuotesNoSurrogate, QueryPayload.str.injEq, forall_eq']

theorem plainDetail_validate_iff {order : List RuleClass} (horder : order.Perm ruleClasses)
    {sqlglot : Sqlglot} {payload : QueryPayload} {verdict : ValidationResultDto}
    (h : validate sqlglot dialect (.registerAll dialect order) payload = .ok verdict) :
    PlainDetail verdict ↔ QuotesNoSurrogate sqlglot payload := by
  have hparsed {queryText : Json.Text} {parsed : List (Option Expression)}
      (hparse : sqlglot.parse queryText dialect = .ok parsed) :
      QuotesNoSurrogate sqlglot (.str queryText) := by
    rw [quotesNoSurrogate_str]
    intro _ message herror
    rw [hparse] at herror
    cases herror
  cases validated h with
  | mismatch detail hnot =>
    exact iff_of_true (plainDetail_rejectWith _ (some detail)) fun queryText heq =>
      absurd heq (hnot queryText)
  | @blank queryText hblank =>
    refine iff_of_true (plainDetail_rejectWith _ none) ?_
    rw [quotesNoSurrogate_str, hblank]
    nofun
  | @unparsed queryText message hblank hparse =>
    rw [quotesNoSurrogate_str]
    constructor
    · intro hplain _ message' herror
      rw [hparse] at herror
      cases herror
      exact hplain _ rfl
    · rintro hquotes _ ⟨⟩
      exact hquotes hblank message hparse
  | counted code hparse => exact iff_of_true (plainDetail_rejectWith _ none) (hparsed hparse)
  | checked statement hparse =>
    refine iff_of_true (applyRules_induct nofun ?_) (hparsed hparse)
    intro cls hcls
    rw [RuleRegistry.registerAll_rulesFor (by decide)] at hcls
    exact plainDetail_check (horder.mem_iff.mp hcls) _

theorem quotesNoSurrogate_of_accepts {sqlglot : Sqlglot} {registry : RuleRegistry}
    {payload : QueryPayload} (h : Accepts sqlglot dialect registry payload) :
    QuotesNoSurrogate sqlglot payload := by
  rintro queryText rfl - message hparse
  obtain ⟨-, statement, hstatement, -⟩ := (accepts_iff _ _ _ _).mp h
  rw [Sqlglot.statements, hparse] at hstatement
  cases hstatement

theorem exists_str_of_accepts {sqlglot : Sqlglot} {registry : RuleRegistry}
    {payload : QueryPayload} (h : Accepts sqlglot dialect registry payload) :
    ∃ queryText, payload = .str queryText := by
  obtain ⟨verdict, hverdict, hallowed⟩ := h
  cases payload with
  | str queryText => exact ⟨queryText, rfl⟩
  | dict fields => cases hverdict; cases hallowed
  | list items => cases hverdict; cases hallowed

end SqlGateway.Postgres
