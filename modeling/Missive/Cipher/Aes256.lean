import Missive.Octets

/-!
# AES-256

The block cipher, for encryption only: counter mode needs no more. The
substitution table is computed from its definition over the field of 256
elements.
-/

set_option autoImplicit false

namespace Missive.Aes256

/-- Multiplication by the element x of the field. -/
def double (element : UInt8) : UInt8 :=
  if element &&& 0x80 = 0 then element <<< 1 else (element <<< 1) ^^^ 0x1B

def multiply (left right : UInt8) : UInt8 :=
  [7, 6, 5, 4, 3, 2, 1, 0].foldl
    (fun product bit =>
      if (right >>> bit) &&& 1 = 1 then double product ^^^ left else double product)
    0

/-- The inverse of a field element, its 254th power; zero goes to zero. -/
def inverse (element : UInt8) : UInt8 :=
  (List.replicate 254 element).foldl multiply 1

def rotateLeft (element amount : UInt8) : UInt8 :=
  (element <<< amount) ||| (element >>> (8 - amount))

def substitutions : Array UInt8 :=
  (Array.range 256).map fun number =>
    let inverted := inverse (UInt8.ofNat number)
    inverted ^^^ rotateLeft inverted 1 ^^^ rotateLeft inverted 2 ^^^ rotateLeft inverted 3 ^^^
      rotateLeft inverted 4 ^^^ 0x63

def substitute (octet : UInt8) : UInt8 :=
  substitutions.getD octet.toNat 0

structure Column where
  a : UInt8
  b : UInt8
  c : UInt8
  d : UInt8

namespace Column

def add (left right : Column) : Column :=
  ⟨left.a ^^^ right.a, left.b ^^^ right.b, left.c ^^^ right.c, left.d ^^^ right.d⟩

def substitute (column : Column) : Column :=
  ⟨Aes256.substitute column.a, Aes256.substitute column.b, Aes256.substitute column.c,
    Aes256.substitute column.d⟩

def rotate (column : Column) : Column :=
  ⟨column.b, column.c, column.d, column.a⟩

/-- One octet of a mixed column: twice the first, three times the second, and
the other two. -/
def mixOctet (first second third fourth : UInt8) : UInt8 :=
  double first ^^^ double second ^^^ second ^^^ third ^^^ fourth

def mix (column : Column) : Column :=
  let ⟨a, b, c, d⟩ := column
  ⟨mixOctet a b c d, mixOctet b c d a, mixOctet c d a b, mixOctet d a b c⟩

end Column

structure Block where
  first : Column
  second : Column
  third : Column
  fourth : Column

namespace Block

/-- The block of sixteen octets; octets that are missing count as zero. -/
def ofOctets (octets : Octets) : Block :=
  let column (start : Nat) : Column :=
    ⟨octets.getD start 0, octets.getD (start + 1) 0, octets.getD (start + 2) 0,
      octets.getD (start + 3) 0⟩
  ⟨column 0, column 4, column 8, column 12⟩

def octets (block : Block) : Octets :=
  [block.first, block.second, block.third, block.fourth].flatMap
    fun column => [column.a, column.b, column.c, column.d]

def add (left right : Block) : Block :=
  ⟨left.first.add right.first, left.second.add right.second, left.third.add right.third,
    left.fourth.add right.fourth⟩

def substitute (block : Block) : Block :=
  ⟨block.first.substitute, block.second.substitute, block.third.substitute,
    block.fourth.substitute⟩

/-- Each row turned by its index: a column takes its octets from itself and the
three columns behind it. -/
def shiftRows (block : Block) : Block :=
  let ⟨one, two, three, four⟩ := block
  ⟨⟨one.a, two.b, three.c, four.d⟩, ⟨two.a, three.b, four.c, one.d⟩,
    ⟨three.a, four.b, one.c, two.d⟩, ⟨four.a, one.b, two.c, three.d⟩⟩

def mixColumns (block : Block) : Block :=
  ⟨block.first.mix, block.second.mix, block.third.mix, block.fourth.mix⟩

end Block

def nextKeys (constant : UInt8) (keys : Block × Block) : Block × Block :=
  let (older, newer) := keys
  let turned := newer.fourth.rotate.substitute
  let first := older.first.add (turned.add ⟨constant, 0, 0, 0⟩)
  let second := older.second.add first
  let third := older.third.add second
  let fourth := older.fourth.add third
  let fifth := newer.first.add fourth.substitute
  let sixth := newer.second.add fifth
  let seventh := newer.third.add sixth
  let eighth := newer.fourth.add seventh
  (⟨first, second, third, fourth⟩, ⟨fifth, sixth, seventh, eighth⟩)

/-- The round keys from two of them on, with the constant of the next step. -/
def keysFrom : Nat → UInt8 → Block × Block → List Block
  | 0, _, keys => [keys.1]
  | steps + 1, constant, keys =>
    keys.1 :: keys.2 :: keysFrom steps (double constant) (nextKeys constant keys)

def roundKeys (key : Sized 32) : List Block :=
  keysFrom 7 1 (.ofOctets key.octets, .ofOctets (key.octets.drop 16))

/-- The rounds for the remaining keys; the last round mixes no columns. -/
def rounds : List Block → Block → Block
  | [], block => block
  | [last], block => block.substitute.shiftRows.add last
  | key :: keys, block => rounds keys (block.substitute.shiftRows.mixColumns.add key)

def encrypt (keys : List Block) (block : Block) : Block :=
  match keys with
  | [] => block
  | key :: keys => rounds keys (block.add key)

end Missive.Aes256
