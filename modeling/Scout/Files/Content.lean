import Scout.Text.Quoted

/-!
# File contents

A file holds text, or bytes that may or may not be text. Bytes are read as UTF-8, up to the
first sequence that is none; a carriage return is read as the line feed that it stands for.
-/

namespace Scout.Files

inductive Content where
  | text (s : String)
  | bytes (bs : List UInt8)
deriving DecidableEq

inductive EncodingReason where
  | start
  | continuation
  | ending
deriving DecidableEq

/-- The bytes that are no text: the value of the first, its place, and how many they are. -/
structure EncodingFault where
  byte : UInt8
  position : Nat
  count : Nat
  reason : EncodingReason

def EncodingReason.message : EncodingReason → String
  | .start => "invalid start byte"
  | .continuation => "invalid continuation byte"
  | .ending => "unexpected end of data"

def EncodingFault.message (e : EncodingFault) : String :=
  let place :=
    if e.count == 1 then s!"byte 0x{Text.hex 2 e.byte.toNat} in position {e.position}"
    else s!"bytes in position {e.position}-{e.position + e.count - 1}"
  s!"'utf-8' codec can't decode {place}: {e.reason.message}"

def isContinuation (b : UInt8) : Bool :=
  0x80 ≤ b && b < 0xC0

/-- How many bytes a first byte announces; none when no sequence begins with it. -/
def sequenceLength (b : UInt8) : Nat :=
  if b < 0x80 then 1
  else if 0xC2 ≤ b && b < 0xE0 then 2
  else if 0xE0 ≤ b && b < 0xF0 then 3
  else if 0xF0 ≤ b && b < 0xF5 then 4
  else 0

/-- Whether the second byte can follow the first: no surrogates, nothing that a shorter sequence
writes, nothing beyond the last character. -/
def isSecond (first second : UInt8) : Bool :=
  isContinuation second
    && !(first == 0xE0 && second < 0xA0)
    && !(first == 0xED && 0xA0 ≤ second)
    && !(first == 0xF0 && second < 0x90)
    && !(first == 0xF4 && 0x90 ≤ second)

/-- How many of the bytes after the first one fit, at most `wanted`. -/
def fittingAfter (first : UInt8) (wanted : Nat) (rest : List UInt8) : Nat :=
  match rest.take wanted with
  | [] => 0
  | second :: more =>
    if isSecond first second then 1 + (more.takeWhile isContinuation).length else 0

def joinBits (n : Nat) (b : UInt8) : Nat :=
  n * 64 + b.toNat % 64

/-- The character of a whole sequence. -/
def charOfSequence (first : UInt8) (rest : List UInt8) : Char :=
  let lead := match rest.length with
    | 0 => first.toNat
    | 1 => first.toNat % 32
    | 2 => first.toNat % 16
    | _ => first.toNat % 8
  Char.ofNat (rest.foldl joinBits lead)

/-- The characters of bytes that begin at a place, with the faults between them. The first
argument is at least the number of bytes. -/
def decodeFrom : Nat → Nat → List UInt8 → List (Except EncodingFault Char)
  | 0, _, _ => []
  | _, _, [] => []
  | fuel + 1, position, b :: rest =>
    let length := sequenceLength b
    if length == 0 then
      .error ⟨b, position, 1, .start⟩ :: decodeFrom fuel (position + 1) rest
    else
      let fitting := fittingAfter b (length - 1) rest
      let after := decodeFrom fuel (position + fitting + 1) (rest.drop fitting)
      if fitting + 1 == length then .ok (charOfSequence b (rest.take fitting)) :: after
      else
        let reason := if fitting == rest.length then EncodingReason.ending else .continuation
        .error ⟨b, position, fitting + 1, reason⟩ :: after

/-- The text of bytes, if all of them are text. -/
def decode (bs : List UInt8) : Except EncodingFault String :=
  ((decodeFrom bs.length 0 bs).mapM id).map String.ofList

/-- The text of bytes, with a replacement character for what is none. -/
def decodeLossy (bs : List UInt8) : String :=
  String.ofList ((decodeFrom bs.length 0 bs).map fun
    | .ok c => c
    | .error _ => Char.ofNat 0xFFFD)

/-- Line ends of every kind become line feeds. -/
def plainLines : List Char → List Char
  | [] => []
  | '\r' :: '\n' :: rest => '\n' :: plainLines rest
  | '\r' :: rest => '\n' :: plainLines rest
  | c :: rest => c :: plainLines rest

/-- The text that a file holds. -/
def Content.read : Content → Except EncodingFault String
  | .text s => .ok (String.ofList (plainLines s.toList))
  | .bytes bs => (decode bs).map fun s => String.ofList (plainLines s.toList)

theorem plainLines_of_not_mem {cs : List Char} (h : '\r' ∉ cs) : plainLines cs = cs := by
  induction cs with
  | nil => rfl
  | cons c cs ih =>
    have hc : c ≠ '\r' := fun e => h (e ▸ List.mem_cons_self)
    have hcs : '\r' ∉ cs := fun m => h (List.mem_cons_of_mem _ m)
    unfold plainLines
    split <;> simp_all

theorem Content.read_text {s : String} (h : '\r' ∉ s.toList) : (Content.text s).read = .ok s := by
  simp [Content.read, plainLines_of_not_mem h]

end Scout.Files
