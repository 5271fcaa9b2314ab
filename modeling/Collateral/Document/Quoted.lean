import Collateral.Document.Node

/-!
Contract: quoted text in a JSON text.

A backslash begins an escape. An escape of a surrogate stands for a character only together with
its partner; alone it is a fault for a reader, but not for someone who skips the text. Control
characters must be escaped.
-/

namespace Collateral.Document.Quoted

def hexDigit? (character : Char) : Option Nat :=
  if '0' ≤ character ∧ character ≤ '9' then some (character.toNat - 48)
  else if 'a' ≤ character ∧ character ≤ 'f' then some (character.toNat - 87)
  else if 'A' ≤ character ∧ character ≤ 'F' then some (character.toNat - 55)
  else none

def byteLength (text : List Char) : Nat :=
  text.foldl (fun total character => total + character.utf8Size) 0

/-- Takes four hexadecimal digits. With fewer than four bytes left the text is truncated. -/
def takeUnit (text : List Char) : Except Fault (Nat × List Char) :=
  match (text.take 4).mapM hexDigit? with
  | some [a, b, c, d] => .ok (((a * 16 + b) * 16 + c) * 16 + d, text.drop 4)
  | _ => .error (if byteLength (text.take 4) < 4 then .truncated else .malformed)

/-- Takes the second half of a pair behind a high surrogate. -/
def takePartner (high : Nat) : List Char → Except Fault (Char × List Char)
  | [] => .error .truncated
  | '\\' :: [] => .error .truncated
  | '\\' :: 'u' :: rest => do
    let (low, rest) ← takeUnit rest
    if 0xDC00 ≤ low ∧ low ≤ 0xDFFF then
      .ok (Char.ofNat (0x10000 + (high - 0xD800) * 0x400 + (low - 0xDC00)), rest)
    else .error .malformed
  | _ => .error .malformed

/-- The character of an escape with a single letter. -/
def escaped? : Char → Option Char
  | '"' => some '"'
  | '\\' => some '\\'
  | '/' => some '/'
  | 'b' => some '\x08'
  | 'f' => some '\x0c'
  | 'n' => some '\n'
  | 'r' => some '\r'
  | 't' => some '\t'
  | _ => none

/-- What has been taken of a quoted text: its characters, last first, and the first fault that only
a reader minds. -/
structure Progress where
  content : List Char := []
  fault : Option Fault := none

namespace Progress

def push (progress : Progress) (character : Char) : Progress :=
  { progress with content := character :: progress.content }

/-- A fault that only a reader minds. -/
def mark (progress : Progress) (fault : Fault) : Progress :=
  { progress with fault := progress.fault.or (some fault) }

def broken (progress : Progress) (fault : Fault) : Part String :=
  ⟨.error (progress.fault.getD fault), .error fault⟩

def closed (progress : Progress) : Part String where
  reading := match progress.fault with
    | none => .ok (String.ofList progress.content.reverse)
    | some fault => .error fault
  skipping := .ok ()

end Progress

/-- Takes a unit behind `\u`, with its partner if it is a high surrogate. -/
def takeCharacter (progress : Progress) (text : List Char) :
    Except Fault (Progress × List Char) := do
  let (unit, rest) ← takeUnit text
  if 0xDC00 ≤ unit ∧ unit ≤ 0xDFFF then return (progress.mark .malformed, rest)
  if unit < 0xD800 ∨ 0xDBFF < unit then return (progress.push (Char.ofNat unit), rest)
  match takePartner unit rest with
  | .ok (character, rest) => return (progress.push character, rest)
  | .error fault => return (progress.mark fault, rest)

/-- Takes the rest of a quoted text behind its opening quote. Every step takes a character, so as
many steps as characters suffice. -/
def takeRest (steps : Nat) (progress : Progress) (text : List Char) : Part String × List Char :=
  match steps, text with
  | 0, _ | _, [] => (progress.broken .truncated, [])
  | _ + 1, '"' :: rest => (progress.closed, rest)
  | _ + 1, '\\' :: [] => (progress.broken .truncated, [])
  | steps + 1, '\\' :: 'u' :: rest =>
    match takeCharacter progress rest with
    | .ok (progress, rest) => takeRest steps progress rest
    | .error fault => (progress.broken fault, rest)
  | steps + 1, '\\' :: letter :: rest =>
    match escaped? letter with
    | some character => takeRest steps (progress.push character) rest
    | none => (progress.broken .malformed, rest)
  | steps + 1, character :: rest =>
    if character.toNat < 0x20 then (progress.broken .malformed, rest)
    else takeRest steps (progress.push character) rest

/-- Takes a quoted text off a text, behind its opening quote. -/
def take (text : List Char) : Part String × List Char :=
  takeRest (text.length + 1) {} text

end Collateral.Document.Quoted
