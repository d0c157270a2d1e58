import SqlGateway.Postgres.ConcurrentRequests

namespace SqlGateway.Postgres

open ConcurrentRequests
open Effect (Triple)
open Interleaving (Within)
open QueryExecutor (Keeps Statement Transactional keeps_of_eq statementEffect)
open Transaction (Applied Store)

/-- What `ping` uses of psycopg beside that. -/
structure PingPsycopg (σ : Type) extends Psycopg σ where
  connectWithin : (connectTimeout : Nat) → Effect PyException σ Unit
  fetchone : Effect PyException σ (Option (List Cell))
  /-- What `==` says of a cell and 1. -/
  equalsOne : Cell → Bool

section Ping

variable {σ : Type}

def pingConnectTimeoutSeconds : Nat := 2

def isOne (psycopg : PingPsycopg σ) : Option (List Cell) → Bool
  | some [cell] => psycopg.equalsOne cell
  | _ => false

def runPing (psycopg : PingPsycopg σ) : RequestProgram σ Bool := do
  perform (psycopg.connectWithin pingConnectTimeoutSeconds)
  Program.withBlock (fun e => perform (psycopg.exitConnection e)) do
    perform psycopg.cursor
    Program.withBlock (fun e => perform (psycopg.exitCursor e)) do
      perform (psycopg.execute "SELECT 1" none)
      let row ← perform psycopg.fetchone
      return isOne psycopg row

def ping (psycopg : PingPsycopg σ) : RequestProgram σ Bool :=
  (runPing psycopg).handle fun
    | .psycopgError _ => pure false
    | exception => .raise exception

end Ping

variable {Connection Database Data : Type}

def probeStatement : Applied Statement Data := ⟨("SELECT 1", none), id⟩

/-- `SELECT 1` changes no data, and leaving the connection commits. -/
structure Probing {σ : Type} (psycopg : PingPsycopg σ) (view : σ → Store Statement Data)
    (sends : Json.Text → Prop) : Prop extends Transactional psycopg.toPsycopg view sends where
  connectWithin : ∀ connectTimeout s, Triple (psycopg.connectWithin connectTimeout) s
    (fun _ s' => Keeps view s s' ∧ (view s').pending = []) (fun _ => Keeps view s)
  selectOne : ∀ s, Triple (psycopg.execute "SELECT 1" none) s
    (fun _ s' => view s' = (view s).run probeStatement) (fun _ => Keeps view s)
  fetchone : ∀ s, Triple psycopg.fetchone s (fun _ s' => view s' = view s) (fun _ => Keeps view s)
  exitCommits : ∀ s, Triple (psycopg.exitConnection none) s
    (fun _ s' => view s' = (view s).commit) (fun _ => Keeps view s)

section Within

variable {access : Access Connection Database Data} {P : List (Happening Data) → Prop}
  {sends : Json.Text → Prop}

theorem within_runPing {psycopg : PingPsycopg (Connection × Database)}
    (h : Probing psycopg access.store sends) (hnone : P [])
    (hprobed : P [.committed [probeStatement]]) (connection : Connection) :
    Within access.setting P (Post fun _ _ events => events = [.committed [probeStatement]])
      (runPing psycopg) connection [] := by
  apply within_bind (R := fun _ connection' events =>
    access.pending connection' = [] ∧ events = [])
  · exact within_keeps hnone fun database => (h.connectWithin _ _).mono
      (fun _ _ hopened => ⟨hopened.1, hopened.2, rfl⟩) fun _ _ hkeeps => ⟨hkeeps, rfl⟩
  rintro _ c₁ _ - ⟨h₁, rfl⟩
  refine within_withBlock (R := fun _ connection' events =>
    access.pending connection' = [probeStatement] ∧ events = []) ?_ ?_ ?_
  · apply within_bind (within_same (R := fun _ => True) hnone fun database =>
      (h.cursor _).mono (fun _ _ hview => ⟨hview, trivial⟩) fun _ _ hkeeps => hkeeps)
    rintro _ c₂ _ - ⟨-, h₂, rfl⟩
    refine within_withBlock (R := fun _ connection' events =>
      access.pending connection' = [probeStatement] ∧ events = []) ?_ ?_ ?_
    · apply within_bind (R := fun _ connection' events =>
        access.pending connection' = [probeStatement] ∧ events = [])
      · refine within_keeps hnone fun database => (h.selectOne _).mono ?_ fun _ _ hkeeps =>
          ⟨hkeeps, rfl⟩
        intro _ s' hview
        refine ⟨by rw [Keeps, hview, Store.run_transactions], ?_, rfl⟩
        change (access.store s').pending = _
        rw [hview, Store.run_pending]
        change access.pending c₂ ++ _ = _
        rw [h₂, h₁]
        rfl
      rintro _ c₃ _ - ⟨h₃, rfl⟩
      apply within_bind (within_same (R := fun _ => True) hnone fun database =>
        (h.fetchone _).mono (fun _ _ hview => ⟨hview, trivial⟩) fun _ _ hkeeps => hkeeps)
      rintro row c₄ _ - ⟨-, h₄, rfl⟩
      exact .pure hnone ⟨h₄.trans h₃, rfl⟩
    · rintro _ c₃ _ hP ⟨h₃, rfl⟩
      refine within_keeps hP fun database => (h.exitCursor _).mono ?_ fun _ _ hfalse => hfalse.elim
      intro _ s' hview
      exact ⟨keeps_of_eq hview, (congrArg Store.pending hview).trans h₃, rfl⟩
    · exact fun e c hP => within_keeps hP fun database => (h.exitCursorRaising e _).mono
        (fun _ _ hkeeps => ⟨hkeeps, rfl⟩) fun _ _ hkeeps => ⟨hkeeps, rfl⟩
  · rintro _ c₃ _ hP ⟨h₃, rfl⟩
    have hcommit := within_commit hnone (fun database => h.exitCommits (c₃, database))
      (h₃ ▸ List.cons_ne_nil _ _) (h₃ ▸ hprobed)
    refine hcommit.mono fun result _ _ hpost => ?_
    cases result with
    | ok _ => exact h₃ ▸ hpost.2
    | error _ => exact hpost
  · refine fun e c hP => within_keeps hP fun database => (h.exitConnectionRaising e _).mono ?_
      fun _ _ hkeeps => ⟨hkeeps, rfl⟩
    intro _ s' hview
    exact ⟨by rw [Keeps, hview, Store.rollback_transactions], rfl⟩

theorem within_ping {psycopg : PingPsycopg (Connection × Database)}
    (h : Probing psycopg access.store sends) (hnone : P [])
    (hprobed : P [.committed [probeStatement]]) (connection : Connection) :
    Within access.setting P (Post fun isReady _ events =>
        events = [.committed [probeStatement]] ∨ isReady = false ∧ events = [])
      (ping psycopg) connection [] := by
  apply (within_runPing h hnone hprobed connection).handle
  · exact fun _ _ _ hevents => .inl hevents
  · rintro e c events hP (rfl : events = [])
    cases e with
    | psycopgError exception => exact .pure hP (.inr ⟨rfl, rfl⟩)
    | sqlglotError message => exact ⟨hP, rfl⟩
    | other typeName message => exact ⟨hP, rfl⟩

end Within

def probedEffect (statement : Statement) : Nat → Nat :=
  if statement.1 = "SELECT 1" then id else statementEffect statement

def probedCounter : PingPsycopg (Pending × List Pending) where
  toPsycopg :=
    { counter with
      execute := fun query params s =>
        (.ok (), (s.1 ++ [⟨(query, params), probedEffect (query, params)⟩], s.2))
      exitConnection := fun
        | none => counter.commit
        | some _ => fun s => (.ok (), ([], s.2)) }
  connectWithin _ := counter.connect
  fetchone := pure (some [.int 1])
  equalsOne
    | .int value => value = 1
    | .bool value => value
    | _ => false

theorem probing_probedCounter {sends : Json.Text → Prop} :
    Probing probedCounter counterAccess.store sends :=
  have hcounter : Transactional counter counterAccess.store sends := transactional_counter
  { connect := hcounter.connect
    cursor := hcounter.cursor
    execute _ _ _ := .of_apply rfl (fun _ _ => ⟨_, rfl⟩) (by rintro _ ⟨⟩)
    setTimeout _ _ := .of_apply rfl (fun _ _ => rfl) (by rintro _ ⟨⟩)
    fetchmany := hcounter.fetchmany
    commit := hcounter.commit
    exitCursor := hcounter.exitCursor
    exitCursorRaising := hcounter.exitCursorRaising
    exitConnection s hnone := by
      refine .of_apply rfl (fun _ _ => ?_) (by rintro _ ⟨⟩)
      have hempty : s.1.isEmpty = true := List.isEmpty_iff.mpr hnone
      rw [if_pos hempty]
    exitConnectionRaising _ _ := .of_apply rfl (fun _ _ => rfl) (by rintro _ ⟨⟩)
    connectWithin _ := hcounter.connect
    selectOne _ := .of_apply rfl (fun _ _ => rfl) (by rintro _ ⟨⟩)
    fetchone _ := .pure rfl
    exitCommits := hcounter.commit }

end SqlGateway.Postgres
