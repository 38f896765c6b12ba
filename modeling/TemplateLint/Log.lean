/-!
# Log messages

Operations say what they did in log messages. A message has a level, and a run shows the messages
at or above the level it was asked for. An operation that logs returns its messages beside its
value, in the order in which they were emitted.

## Main definitions

* `Log.Level`, `Log.Entry`, `Log`: messages and their levels
* `Log.from`: the messages at or above a level
* `Logged`: a value together with the messages emitted while it was computed
-/

namespace TemplateLint

/-- How much a message matters. -/
inductive Log.Level where
  | debug
  | info
  | warn
  deriving DecidableEq, Repr

namespace Log.Level

/-- The name of a level as a log line begins with it. -/
def name : Level → String
  | debug => "DEBUG"
  | info => "INFO"
  | warn => "WARN"

/-- The place of a level in the order from least to most important. -/
def rank : Level → Nat
  | debug => 0
  | info => 1
  | warn => 2

end Log.Level

/-- A message and its level. -/
structure Log.Entry where
  level : Log.Level
  message : String
  deriving DecidableEq, Repr

/-- A message as one line of a log. -/
def Log.Entry.line (e : Log.Entry) : String :=
  e.level.name ++ " " ++ e.message

/-- Two hexadecimal digits. -/
def Log.hexPair (n : Nat) : List Char :=
  [Nat.digitChar (n / 16), Nat.digitChar (n % 16)]

/-- A character as a terminal may see it: those that control the terminal are escaped, but tabs,
line breaks and other harmless characters are not. -/
def Log.disarm (c : Char) : List Char :=
  let n := c.toNat
  if n = 0x07 ∨ n = 0x08 ∨ n = 0x0C ∨ n = 0x1B ∨ n = 0x7F then ['\\', 'x'] ++ hexPair n
  else if 0x80 ≤ n ∧ n ≤ 0x9F then ['\\', 'u', '\x7b'] ++ hexPair n ++ ['\x7d']
  else [c]

/-- A message as it is shown on a terminal. -/
def Log.Entry.shownLine (e : Log.Entry) : String :=
  e.level.name ++ " " ++ String.ofList (e.message.toList.flatMap Log.disarm)

/-- The messages of an operation in the order in which they were emitted. -/
abbrev Log := List Log.Entry

/-- The messages whose level is `least` or above. -/
def Log.from (least : Log.Level) (log : Log) : Log :=
  log.filter fun e => least.rank ≤ e.level.rank

/-- A value together with the messages emitted while it was computed. -/
structure Logged (α : Type) where
  value : α
  log : Log := []

namespace Logged

variable {α β : Type}

/-- Nothing but a message. -/
def emit (level : Log.Level) (message : String) : Logged Unit :=
  ⟨(), [⟨level, message⟩]⟩

/-- Computes `f` for every item in order and joins the results. -/
def flatMap (xs : List α) (f : α → Logged (List β)) : Logged (List β) :=
  ⟨xs.flatMap fun x => (f x).value, xs.flatMap fun x => (f x).log⟩

instance : Monad Logged where
  pure a := ⟨a, []⟩
  bind x f := ⟨(f x.value).value, x.log ++ (f x.value).log⟩

@[simp] theorem value_pure (a : α) : (pure a : Logged α).value = a := rfl

@[simp] theorem log_pure (a : α) : (pure a : Logged α).log = [] := rfl

@[simp] theorem value_bind (x : Logged α) (f : α → Logged β) :
    (x >>= f).value = (f x.value).value := rfl

@[simp] theorem log_bind (x : Logged α) (f : α → Logged β) :
    (x >>= f).log = x.log ++ (f x.value).log := rfl

end Logged

end TemplateLint
