import TwinBuild.Text.Utf8

/-!
# Plain text

Where the output is no terminal, what only a terminal understands is taken out of a text: controls,
and the sequences that begin with an escape. The blanks among the controls stay, even in the middle
of most sequences. There the two readers differ: a text that lies there as a whole goes on in plain
characters after such a blank, in a stream the sequence goes on after the next control.

Main statements: `ofWhole_of_plain` and `ofStream_of_plain`, a text without controls stays as it is.
-/

namespace TwinBuild.Plain

/-- Where a terminal stands in a text. -/
inductive Mode where
  /-- Outside every sequence. -/
  | ground
  /-- After an escape. -/
  | escape
  /-- After an escape and a sign that asks for a further one. -/
  | intermediate
  /-- In a control sequence. -/
  | sequence
  /-- At the beginning of a sequence for a device. -/
  | device
  /-- Among the parameters of a sequence for a device. -/
  | deviceParameters
  /-- After the signs that follow these parameters. -/
  | deviceIntermediate
  /-- In a text for a device, which a terminator ends. -/
  | payload
  /-- In a command to the system, which a bell ends. -/
  | command
deriving DecidableEq, Repr

namespace Mode

/-- Where the terminal stands after one more octet. Two controls cancel every sequence, and an escape
begins a new one. -/
def next (m : Mode) (b : UInt8) : Mode :=
  if b = 0x18 || b = 0x1A then ground
  else if b = 0x1B then escape
  else match m with
    | ground => ground
    | escape =>
      if b < 0x20 || 0x7F ≤ b then escape
      else if b < 0x30 then intermediate
      else if b = 0x50 then device
      else if b = 0x58 || b = 0x5E || b = 0x5F then payload
      else if b = 0x5B then sequence
      else if b = 0x5D then command
      else ground
    | intermediate => if 0x30 ≤ b && b < 0x7F then ground else intermediate
    | sequence => if 0x40 ≤ b && b < 0x7F then ground else sequence
    | device =>
      if b < 0x20 || 0x7F ≤ b then device
      else if b < 0x30 then deviceIntermediate
      else if b < 0x40 then deviceParameters
      else payload
    | deviceParameters =>
      if b < 0x20 || 0x7F ≤ b then deviceParameters
      else if b < 0x30 then deviceIntermediate
      else if b < 0x3C then deviceParameters
      else payload
    | deviceIntermediate =>
      if b < 0x30 || 0x7F ≤ b then deviceIntermediate else payload
    | payload => if b = 0x9C then ground else payload
    | command => if b = 0x07 then ground else command

/-- The blanks among the controls. -/
def isBlankControl (b : UInt8) : Bool := b = 0x09 || b = 0x0A || b = 0x0C || b = 0x0D

/-- Whether controls have their effect here, though a sequence has begun. -/
def obeysControls (m : Mode) : Bool :=
  m = ground || m = escape || m = intermediate || m = sequence

/-- Whether an octet begins a character that is shown here. -/
def shows (m : Mode) (b : UInt8) : Bool :=
  (m = ground && ((0x20 ≤ b && b < 0x7F) || (0xC2 ≤ b && b ≤ 0xF4)))
    || (m.obeysControls && isBlankControl b)

end Mode

/-- The octets that follow one that begins a character. -/
def following (b : UInt8) : Nat :=
  if b < 0xC2 then 0 else if b < 0xE0 then 1 else if b < 0xF0 then 2 else 3

/-- Whether an octet goes on with a character. -/
def isContinuation (b : UInt8) : Bool := 0x80 ≤ b && b < 0xC0

/-- What is left of a text that lies there as a whole, from a place in it. -/
def wholeFrom (m : Mode) : Octets → Octets
  | [] => []
  | b :: rest =>
    if m.shows b || isContinuation b then b :: wholeFrom .ground rest
    else wholeFrom (m.next b) rest

/-- What is left of a stream; `isShowing` says that the octet before was shown, and `due` octets of
its character are still to come. -/
def streamFrom (m : Mode) (isShowing : Bool) (due : Nat) : Octets → Octets
  | [] => []
  | b :: rest =>
    if 0 < due then b :: streamFrom m true (due - 1) rest
    else if (if isShowing then Mode.ground else m).shows b then
      b :: streamFrom (if following b = 0 then m else .ground) true (following b) rest
    else streamFrom (m.next b) false 0 rest

/-- What is left of a text that lies there as a whole. -/
def ofWhole (text : String) : String := Utf8.lossy (wholeFrom .ground (Octets.ofString text))

/-- What is left of a text that is written to a stream. -/
def ofStream (text : String) : String := Utf8.lossy (streamFrom .ground false 0 (Octets.ofString text))

/-- Whether an octet has a place in a text without controls. -/
def isPlain (b : UInt8) : Bool := (0x20 ≤ b && b < 0x7F) || Mode.isBlankControl b

theorem shows_ground_of_isPlain {b : UInt8} (h : isPlain b = true) : Mode.ground.shows b = true := by
  simp only [isPlain, Bool.or_eq_true] at h
  rcases h with h | h
  · simp [Mode.shows, h]
  · simp [Mode.shows, Mode.obeysControls, h]

theorem following_of_isPlain {b : UInt8} (h : isPlain b = true) : following b = 0 := by
  have hlt : b < 0xC2 := by
    simp only [isPlain, Mode.isBlankControl, Bool.or_eq_true, Bool.and_eq_true, decide_eq_true_eq]
      at h
    rcases h with ⟨_, h⟩ | ((rfl | rfl) | rfl) | rfl
    · exact UInt8.lt_trans h (by decide)
    all_goals decide
  simp [following, hlt]

theorem wholeFrom_of_plain {text : Octets} (h : ∀ b ∈ text, isPlain b = true) :
    wholeFrom .ground text = text := by
  induction text with
  | nil => rfl
  | cons b rest ih =>
    have hb := shows_ground_of_isPlain (h b (by simp))
    simp [wholeFrom, hb, ih fun c hc => h c (List.mem_cons_of_mem b hc)]

theorem streamFrom_of_plain {text : Octets} (h : ∀ b ∈ text, isPlain b = true)
    (isShowing : Bool) : streamFrom .ground isShowing 0 text = text := by
  induction text generalizing isShowing with
  | nil => rfl
  | cons b rest ih =>
    have hb := shows_ground_of_isPlain (h b (by simp))
    have hf := following_of_isPlain (h b (by simp))
    simp [streamFrom, hb, hf, ih fun c hc => h c (List.mem_cons_of_mem b hc)]

/-- A whole text without controls stays as it is. -/
theorem ofWhole_of_plain {text : String} (h : ∀ b ∈ Octets.ofString text, isPlain b = true) :
    ofWhole text = Utf8.lossy (Octets.ofString text) := by
  rw [ofWhole, wholeFrom_of_plain h]

/-- A stream without controls stays as it is. -/
theorem ofStream_of_plain {text : String} (h : ∀ b ∈ Octets.ofString text, isPlain b = true) :
    ofStream text = Utf8.lossy (Octets.ofString text) := by
  rw [ofStream, streamFrom_of_plain h]

end TwinBuild.Plain
