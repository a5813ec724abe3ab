import PolicyHost.Bundle.Inflate
import PolicyHost.Fault

namespace PolicyHost
namespace Gzip

/-!
# Compressed archives

An archive comes as a gzip member: a header, deflated data, and a trailer that
nobody checks.  It is read in pieces as the data is asked for, and a piece is
decoded as a whole: when decoding fails in a piece, nothing of that piece is
there, but everything before it is.
-/

/-- Data that is read from its beginning on, and how much of it was read.
Damaged data cannot be read beyond its end; other data just ends. -/
structure Tape where
  rest : Bytes
  position : Nat := 0
  damaged : Bool := false

/-- How many bytes of a file are decoded at a time. -/
def pieceSize : Nat := 10240

def afterText : Bytes → Bytes
  | [] => []
  | 0 :: rest => rest
  | _ :: rest => afterText rest

def dropIf (flags bit : Nat) (drop : Bytes → Bytes) (bytes : Bytes) : Bytes :=
  if flags / bit % 2 = 1 then drop bytes else bytes

/-- What may follow the fixed part of a header: a name, a comment and a
check. -/
def afterOptions (flags : Nat) (bytes : Bytes) : Bytes :=
  dropIf flags 2 (List.drop 2) (dropIf flags 16 afterText (dropIf flags 8 afterText bytes))

/-- What is wrong with a header. -/
inductive Flaw where
  /-- It is not the header of a compressed archive. -/
  | foreign
  /-- It ends where a number has to be. -/
  | ended
deriving DecidableEq, Repr

/-- The bytes after a header.  A further field has to be empty. -/
def afterHeader : Bytes → Except Flaw Bytes
  | 0x1F :: 0x8B :: 0x08 :: flags :: rest =>
    let flags := flags.toNat
    let rest := rest.drop 6
    if flags / 4 % 2 = 0 then .ok (afterOptions flags rest)
    else match rest with
      | 0 :: 0 :: rest => .ok (afterOptions flags rest)
      | _ :: _ :: _ => .error .foreign
      | _ => .error .ended
  | [0x1F, 0x8B, 0x08] => .error .ended
  | _ => .error .foreign

/-- The data of deflated bytes that begin some way into a file. -/
def unpack (start : Nat) (deflated : Bytes) : Tape :=
  match Inflate.inflate deflated with
  | (output, .corrupt consumed) =>
    let intact := (start + consumed - 1) / pieceSize * pieceSize - start
    if intact = 0 then { rest := [], damaged := true }
    else if consumed ≤ intact then { rest := output.toList, damaged := true }
    else { rest := (Inflate.inflate (deflated.take intact)).1.toList, damaged := true }
  | (output, _) => { rest := output.toList }

def tapeOf (file : Bytes) : Except Flaw Tape :=
  match afterHeader file with
  | .ok deflated => .ok (unpack (file.length - deflated.length) deflated)
  | .error flaw => .error flaw

end Gzip
end PolicyHost
