import SqlGateway.Library.Lines

/-! A stream of events as a browser reads it -/

namespace EventSource

structure Reader where
  data : List Char := []
  eventType : List Char := []
  messages : List (List Char) := []

namespace Reader

/-- The fields that decide when the reader connects again dispatch nothing. -/
def field (reader : Reader) (name value : List Char) : Reader :=
  if name = "data".toList then { reader with data := reader.data ++ value ++ ['\n'] }
  else if name = "event".toList then { reader with eventType := value }
  else reader

/-- An event of another type goes to no `onmessage`. -/
def dispatch (reader : Reader) : Reader :=
  { messages :=
      if reader.data ≠ [] ∧ (reader.eventType = [] ∨ reader.eventType = "message".toList) then
        reader.messages ++ [reader.data.dropLast]
      else reader.messages }

def isColon (c : Char) : Bool := c = ':'

/-- One space after the colon is not part of the value. -/
def withoutSpace : List Char → List Char
  | ' ' :: value => value
  | value => value

def line (reader : Reader) (text : List Char) : Reader :=
  if text = [] then reader.dispatch
  else if text.head? = some ':' then reader
  else reader.field (text.takeWhile fun c => !isColon c)
    (withoutSpace ((text.dropWhile fun c => !isColon c).drop 1))

end Reader

/-- Every line break is one line feed. -/
def normalized : List Char → List Char
  | '\r' :: '\n' :: rest => '\n' :: normalized rest
  | '\r' :: rest => '\n' :: normalized rest
  | c :: rest => c :: normalized rest
  | [] => []

def isLineFeed (c : Char) : Bool := c = '\n'

/-- What has been dispatched when the stream ends; an event without its blank line has not. -/
def messages (text : List Char) : List (List Char) :=
  ((Lines.terminated isLineFeed (normalized text)).foldl Reader.line {}).messages

def Unbroken (text : List Char) : Prop := ∀ c ∈ text, c ≠ '\n' ∧ c ≠ '\r'

inductive Block
  | message (data : List Char)
  | comment (text : List Char)

namespace Block

def content : Block → List Char
  | .message data => data
  | .comment text => text

def message? : Block → Option (List Char)
  | .message data => some data
  | .comment _ => none

def lines : Block → List (List Char)
  | .message data => ["data: ".toList ++ data, []]
  | .comment text => [':' :: text, []]

def text (block : Block) : List Char := block.lines.flatMap fun line => line ++ ['\n']

end Block

variable {blocks : List Block} {text : List Char}

theorem text_message (data : List Char) :
    (Block.message data).text = "data: ".toList ++ (data ++ "\n\n".toList) := by
  simp [Block.text, Block.lines]

theorem normalized_of_not_mem (h : '\r' ∉ text) : normalized text = text := by
  fun_induction normalized text with
  | case1 rest ih => exact absurd List.mem_cons_self h
  | case2 rest _ ih => exact absurd List.mem_cons_self h
  | case3 c rest _ _ ih => rw [ih fun hrest => h (List.mem_cons_of_mem c hrest)]
  | case4 => rfl

theorem line_data (found : List (List Char)) (data : List Char) :
    Reader.line { messages := found } ("data: ".toList ++ data) =
      { data := data ++ ['\n'], messages := found } := rfl

theorem line_blank (found : List (List Char)) (data : List Char) :
    Reader.line { data := data ++ ['\n'], messages := found } [] =
      { messages := found ++ [data] } := by
  change Reader.dispatch _ = _
  rw [Reader.dispatch, if_pos ⟨List.append_ne_nil_of_right_ne_nil _ (List.cons_ne_nil _ _), .inl rfl⟩,
    List.dropLast_concat]

/-- After any number of lines the messages are those of the blocks that are whole. -/
theorem foldl_line (blocks : List Block) (n : Nat) (found : List (List Char)) :
    (((blocks.flatMap Block.lines).take n).foldl Reader.line { messages := found }).messages =
      found ++ (blocks.take (n / 2)).filterMap Block.message? := by
  induction blocks generalizing n found with
  | nil => simp
  | cons block blocks ih =>
    match n with
    | 0 => exact (List.append_nil found).symm
    | 1 =>
      cases block with
      | message data => exact (List.append_nil found).symm
      | comment text => exact (List.append_nil found).symm
    | n + 2 =>
      have hhalf : (n + 2) / 2 = n / 2 + 1 := Nat.add_div_right n (Nat.succ_pos 1)
      rw [hhalf, List.take_succ_cons, List.flatMap_cons]
      cases block with
      | message data =>
        calc _ = (((blocks.flatMap Block.lines).take n).foldl Reader.line
              { messages := found ++ [data] }).messages := by
              rw [← line_blank, ← line_data]
              rfl
          _ = _ := by
              rw [ih, List.append_assoc]
              rfl
      | comment text => exact ih n found

theorem unbroken_lines (h : ∀ block ∈ blocks, Unbroken block.content) :
    ∀ line ∈ blocks.flatMap Block.lines, Unbroken line := by
  have hplain : ∀ (front : List Char) {text : List Char},
      front.all (fun c => c ≠ '\n' && c ≠ '\r') = true → Unbroken text →
        Unbroken (front ++ text) := by
    intro front text hfront htext c hc
    cases List.mem_append.mp hc with
    | inl hc => simpa using List.all_eq_true.mp hfront c hc
    | inr hc => exact htext c hc
  intro line hline
  obtain ⟨block, hblock, hline⟩ := List.mem_flatMap.mp hline
  have hcontent := h block hblock
  cases block with
  | message data =>
    rcases List.mem_pair.mp hline with rfl | rfl
    · exact hplain "data: ".toList (by decide) hcontent
    · exact fun c hc => absurd hc List.not_mem_nil
  | comment text =>
    rcases List.mem_pair.mp hline with rfl | rfl
    · exact hplain [':'] (by decide) hcontent
    · exact fun c hc => absurd hc List.not_mem_nil

theorem marked_lines (h : ∀ block ∈ blocks, Unbroken block.content) :
    ∀ line ∈ blocks.flatMap Block.lines, ∀ c ∈ line, isLineFeed c = false :=
  fun line hline c hc => decide_eq_false (unbroken_lines h line hline c hc).1

theorem flatMap_text (blocks : List Block) :
    blocks.flatMap Block.text = (blocks.flatMap Block.lines).flatMap fun line => line ++ ['\n'] :=
  List.flatMap_assoc.symm

/-- A cut anywhere in the stream loses the block that it cuts and no other. -/
theorem messages_cut (h : ∀ block ∈ blocks, Unbroken block.content)
    (htext : text <+: blocks.flatMap Block.text) :
    messages text = (blocks.take (text.countP isLineFeed / 2)).filterMap Block.message? := by
  rw [flatMap_text] at htext
  have hreturn : '\r' ∉ text := by
    intro hmem
    obtain ⟨line, hline, hc⟩ := List.mem_flatMap.mp (htext.subset hmem)
    cases List.mem_append.mp hc with
    | inl hc => exact (unbroken_lines h line hline _ hc).2 rfl
    | inr hc => cases List.mem_singleton.mp hc
  rw [messages, normalized_of_not_mem hreturn, Lines.terminated_cut (marked_lines h) rfl htext,
    foldl_line, List.nil_append]

theorem messages_blocks (h : ∀ block ∈ blocks, Unbroken block.content) :
    messages (blocks.flatMap Block.text) = blocks.filterMap Block.message? := by
  have hlength : (blocks.flatMap Block.lines).length = blocks.length * 2 := by
    refine List.length_flatMap.trans ?_
    rw [List.map_congr_left (g := fun _ => 2) fun block _ => by cases block <;> rfl]
    simp
  have hcount : (blocks.flatMap Block.text).countP isLineFeed / 2 = blocks.length := by
    rw [flatMap_text, Lines.countP_lines (marked_lines h) rfl, hlength,
      Nat.mul_div_cancel _ (Nat.succ_pos 1)]
  rw [messages_cut h (List.prefix_refl _), hcount, List.take_length]

end EventSource
