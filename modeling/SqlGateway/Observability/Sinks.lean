import SqlGateway.Core
import SqlGateway.Library.Effect

namespace SqlGateway

/-- `json.dumps(entry.to_json_payload(include_result_data=False)) + "\n"`. -/
def jsonLine (entry : ObservabilityEntryDto) : List Char :=
  (entry.toJsonPayload false).text ⟨true, false⟩ ++ ['\n']

abbrev ObservabilityRecorder (σ : Type) := ObservabilityEntryDto → Effect PyException σ Unit

/-- What is used of a stream; `σ` is where it writes to. -/
structure TextIO (σ : Type) where
  write : List Char → Effect PyException σ Unit
  flush : Effect PyException σ Unit

structure AppendFile (σ : Type) where
  openForAppend : Effect PyException σ Unit
  write : List Char → Effect PyException σ Unit
  close : Option PyException → Effect PyException σ Unit

variable {σ : Type}

/-- The body under the write lock. -/
def StdoutObservabilityRecorderAdapter.record (outputStream : TextIO σ) :
    ObservabilityRecorder σ := fun entry => do
  outputStream.write (jsonLine entry)
  outputStream.flush

/-- Without a path there is no file and nothing happens. -/
def JsonlFileObservabilityRecorderAdapter.record (outputFile : Option (AppendFile σ)) :
    ObservabilityRecorder σ := fun entry =>
  match outputFile with
  | none => pure ()
  | some outputFile => do
    outputFile.openForAppend
    Effect.withBlock outputFile.close (outputFile.write (jsonLine entry))

namespace MultiSinkObservabilityRecorderAdapter

/-- One turn of the loop over the recorders; the failure is logged. -/
def forward (recorder : ObservabilityRecorder σ) : ObservabilityRecorder σ := fun entry =>
  tryCatch (recorder entry) fun _ => pure ()

def record (recorders : List (ObservabilityRecorder σ)) : ObservabilityRecorder σ := fun entry =>
  recorders.forM fun recorder => forward recorder entry

theorem forward_eq (recorder : ObservabilityRecorder σ) (entry : ObservabilityEntryDto) (s : σ) :
    forward recorder entry s = (.ok (), (recorder entry s).2) := by
  rcases h : recorder entry s with ⟨_ | _, s'⟩
  · exact Effect.tryCatch_error h
  · exact Effect.tryCatch_ok h

theorem record_eq (recorders : List (ObservabilityRecorder σ)) (entry : ObservabilityEntryDto)
    (s : σ) :
    record recorders entry s =
      (.ok (), recorders.foldl (fun s recorder => (recorder entry s).2) s) := by
  induction recorders generalizing s with
  | nil => rfl
  | cons recorder recorders ih =>
    calc record (recorder :: recorders) entry s
        = record recorders entry (recorder entry s).2 :=
          Effect.bind_ok (forward_eq recorder entry s)
      _ = _ := ih _

end MultiSinkObservabilityRecorderAdapter

/-- On every stream and every file the two entries are written alike. -/
def SameAuditLines (first second : ObservabilityEntryDto) : Prop :=
  ∀ (σ : Type) (outputStream : TextIO σ) (outputFile : Option (AppendFile σ)),
    StdoutObservabilityRecorderAdapter.record outputStream first =
        StdoutObservabilityRecorderAdapter.record outputStream second ∧
      JsonlFileObservabilityRecorderAdapter.record outputFile first =
        JsonlFileObservabilityRecorderAdapter.record outputFile second

def TextIO.buffer : TextIO (List Char) where
  write text := fun written => (.ok (), written ++ text)
  flush := pure ()

theorem sameAuditLines_iff {first second : ObservabilityEntryDto} :
    SameAuditLines first second ↔ jsonLine first = jsonLine second := by
  constructor
  · intro h
    have hbuffer := congrFun (h _ TextIO.buffer none).1 []
    exact congrArg Prod.snd hbuffer
  · intro h σ outputStream outputFile
    unfold StdoutObservabilityRecorderAdapter.record JsonlFileObservabilityRecorderAdapter.record
    rw [h]
    exact ⟨rfl, rfl⟩

end SqlGateway
