import ParticipantDirectory.Decimal.Digits
import ParticipantDirectory.Decimal.Rounded
import ParticipantDirectory.Json.Plain
import ParticipantDirectory.Text.Hex

/-!
# Message templates

A template holds directives that begin with a percent sign: an optional key in parentheses, flags, a
least width, a precision, and a letter that says how the next argument is shown. Two percent signs are
one.
-/

namespace ParticipantDirectory.Text

/-- Why a template cannot be filled in. -/
inductive TemplateFault where
  | tooFewArguments
  | tooManyArguments
  | noMapping
  | noKey (key : String)
  | incomplete
  | incompleteKey
  | unknownLetter (letter : Char) (index : Nat)
  | needsNumber (letter : Char) (kind : String)
  | needsInteger (letter : Char) (kind : String)
  | needsReal (kind : String)
  | needsCharacter
  | needsStar
  | widthTooBig
  | precisionTooBig
  | sizeRange (word : String)
  | outOfMemory
  | realRange
  | characterRange
  | infinite
  | undefined
  deriving DecidableEq, Repr

/-- The wording of a fault. -/
def TemplateFault.message : TemplateFault → String
  | tooFewArguments => "not enough arguments for format string"
  | tooManyArguments => "not all arguments converted during string formatting"
  | noMapping => "format requires a mapping"
  | noKey key => quoted key
  | incomplete => "incomplete format"
  | incompleteKey => "incomplete format key"
  | unknownLetter c i =>
    "unsupported format character '" ++ (if 31 ≤ c.toNat ∧ c.toNat < 127 then c.toString else "?") ++ "' (0x" ++
      String.ofList (Nat.toDigits 16 c.toNat) ++ ") at index " ++ Nat.repr i
  | needsNumber c kind => "%" ++ c.toString ++ " format: a real number is required, not " ++ kind
  | needsInteger c kind => "%" ++ c.toString ++ " format: an integer is required, not " ++ kind
  | needsReal kind => "must be real number, not " ++ kind
  | needsCharacter => "%c requires int or char"
  | needsStar => "* wants int"
  | widthTooBig => "width too big"
  | precisionTooBig => "precision too big"
  | sizeRange word => "Python int too large to convert to C " ++ word
  | outOfMemory => ""
  | realRange => "int too large to convert to float"
  | characterRange => "%c arg not in range(0x110000)"
  | infinite => "cannot convert float infinity to integer"
  | undefined => "cannot convert float NaN to integer"

/-- A directive without its letter. -/
structure Directive where
  left : Bool
  plus : Bool
  blank : Bool
  zero : Bool
  alternate : Bool
  width : Nat
  precision : Option Nat

/-- A directive without flags, width and precision. -/
def Directive.plain : Directive := ⟨false, false, false, false, false, 0, none⟩

namespace Directive

/-- The text filled up to the width of the directive. -/
def fill (d : Directive) (s : List Char) : List Char :=
  if d.left then s ++ List.replicate (d.width - s.length) ' ' else Decimal.padLeft ' ' d.width s

/-- The text of a value, cut to the precision. -/
def text (d : Directive) (s : String) : List Char :=
  d.fill (match d.precision with
    | some n => s.toList.take n
    | none => s.toList)

/-- The sign of a number. -/
def sign (d : Directive) (negative : Bool) : List Char :=
  if negative then ['-'] else if d.plus then ['+'] else if d.blank then [' '] else []

/-- A number given by its sign and digits; zeros may fill the place between the two. -/
def number (d : Directive) (sign digits : List Char) : List Char :=
  if d.zero && !d.left then sign ++ Decimal.padLeft '0' (d.width - sign.length) digits
  else d.fill (sign ++ digits)

/-- A whole number in a base. -/
def whole (d : Directive) (base : Nat) (mark : List Char) (upper : Bool) (n : Int) : List Char :=
  let digits := Decimal.padLeft '0' (d.precision.getD 0) (Nat.toDigits base n.natAbs)
  let digits := if upper then digits.map Char.toUpper else digits
  d.number (d.sign (n < 0) ++ if d.alternate then mark else []) digits

/-- A real number in the form of a letter: with a fixed number of decimals, with an exponent, or in the form that
suits its size. Letters of upper case make the text so. -/
def real (d : Directive) (letter : Char) (x : Float) : List Char :=
  let precision := d.precision.getD 6
  let r := Decimal.Ratio.ofFloat x
  let body :=
    if x.isNaN then "nan".toList
    else if x.isInf then "inf".toList
    else
      match letter.toLower with
      | 'e' => (Decimal.Significant.ofRatio (precision + 1) r).scientific d.alternate
      | 'g' => (Decimal.Significant.ofRatio (max 1 precision) r).general d.alternate
      | _ => Decimal.fixedText precision d.alternate r
  d.number (d.sign (!x.isNaN && x.toBits.toNat / Nat.pow 2 63 = 1))
    (if letter.isUpper then body.map Char.toUpper else body)

end Directive

/-- The whole part of a finite number. -/
def wholePart (x : Float) : Int :=
  let r := Decimal.Ratio.ofFloat x
  if x < 0 then -((r.num / r.den : Nat) : Int) else (r.num / r.den : Nat)

/-- The whole number of a value for a decimal directive. -/
def decimalOf (letter : Char) : Json → Except TemplateFault Int
  | .int n => .ok n
  | .bool b => .ok (if b then 1 else 0)
  | .real x => if x.isNaN then .error .undefined else if x.isInf then .error .infinite else .ok (wholePart x)
  | v => .error (.needsNumber letter v.kindName)

/-- The whole number of a value for a directive that takes no fractions. -/
def wholeOf? : Json → Option Int
  | .int n => some n
  | .bool b => some (if b then 1 else 0)
  | _ => none

/-- The real number of a value. -/
def realOf : Json → Except TemplateFault Float
  | .int n =>
    if n.natAbs < Nat.pow 2 1024 - Nat.pow 2 970 then .ok (Decimal.toFloat (n < 0) n.natAbs 0) else .error .realRange
  | .bool b => .ok (if b then 1 else 0)
  | .real x => .ok x
  | v => .error (.needsReal v.kindName)

/-- A value as a directive with a given letter, at a given place of the template, shows it. -/
def Directive.display (d : Directive) (letter : Char) (index : Nat) (v : Json) : Except TemplateFault (List Char) :=
  match letter with
  | 's' => .ok (d.text v.shown)
  | 'r' => .ok (d.text v.literal)
  | 'a' => .ok (d.text (String.ofList (Quoted.toAscii v.literal.toList)))
  | 'd' | 'i' | 'u' => (decimalOf letter v).map (d.whole 10 [] false)
  | 'x' | 'X' =>
    match wholeOf? v with
    | some n => .ok (d.whole 16 ['0', letter] (letter == 'X') n)
    | none => .error (.needsInteger letter v.kindName)
  | 'o' =>
    match wholeOf? v with
    | some n => .ok (d.whole 8 ['0', 'o'] false n)
    | none => .error (.needsInteger letter v.kindName)
  | 'e' | 'E' | 'f' | 'F' | 'g' | 'G' => (realOf v).map (d.real letter)
  | 'c' =>
    match v with
    | .str s => if s.length = 1 then .ok (d.fill s.toList) else .error .needsCharacter
    | _ =>
      match wholeOf? v with
      | some n => if 0 ≤ n ∧ n < 0x110000 then .ok (d.fill [Char.ofNat n.toNat]) else .error .characterRange
      | none => .error .needsCharacter
  | _ => .error (.unknownLetter letter index)

/-- The arguments of a template: a sequence, of which the directives take one after the other, or an
object, from which they take what their keys name. -/
inductive Arguments where
  | sequence (values : List Json)
  | named (members : List (String × Json))

/-- The next argument of a sequence. -/
def Arguments.next : Arguments → Except TemplateFault (Json × Arguments)
  | sequence [] => .error .tooFewArguments
  | sequence (v :: rest) => .ok (v, sequence rest)
  | named members => .ok (.obj members, sequence [])

/-- The flags at the front of a text. -/
def takeFlags (d : Directive) : List Char → Directive × List Char
  | '-' :: s => takeFlags { d with left := true } s
  | '+' :: s => takeFlags { d with plus := true } s
  | ' ' :: s => takeFlags { d with blank := true } s
  | '0' :: s => takeFlags { d with zero := true } s
  | '#' :: s => takeFlags { d with alternate := true } s
  | s => (d, s)

/-- The range of widths or of precisions: the number of bits of a size, the word that names it, and the fault of a
size in digits that is beyond it. -/
structure SizeRange where
  bits : Nat
  word : String
  fault : TemplateFault

/-- The range of widths. -/
def widths : SizeRange := ⟨64, "ssize_t", .widthTooBig⟩

/-- The range of precisions. -/
def precisions : SizeRange := ⟨32, "int", .precisionTooBig⟩

/-- A number at the front of a text, or the next argument if there is a star. -/
def takeSize (range : SizeRange) (args : Arguments) :
    List Char → Except TemplateFault (Option Int × Arguments × List Char)
  | '*' :: s => do
    let (v, args) ← args.next
    match wholeOf? v with
    | some n =>
      if n < -Int.pow 2 (range.bits - 1) ∨ Int.pow 2 (range.bits - 1) ≤ n then .error (.sizeRange range.word)
      else return (some n, args, s)
    | none => .error .needsStar
  | s =>
    let digits := s.takeWhile Char.isDigit
    let n := Decimal.ofDigits digits
    if Nat.pow 2 (range.bits - 1) ≤ n then .error range.fault
    else .ok (if digits.isEmpty then none else some (n : Int), args, s.dropWhile Char.isDigit)

/-- The greatest width for which there is room. -/
def widthLimit : Nat := Nat.pow 2 32

/-- The text up to the parenthesis that closes a key, and the text after it. -/
def takeKey (depth : Nat) : List Char → Option (List Char × List Char)
  | [] => none
  | ')' :: s => if depth = 0 then some ([], s) else (takeKey (depth - 1) s).map fun p => (')' :: p.1, p.2)
  | '(' :: s => (takeKey (depth + 1) s).map fun p => ('(' :: p.1, p.2)
  | c :: s => (takeKey depth s).map fun p => (c :: p.1, p.2)

/-- The directive at the front of a text, filled in: what it shows, the arguments left and the text after
it. The template has `size` characters and its named arguments are `all`. -/
def fillDirective (size : Nat) (all args : Arguments) (s : List Char) :
    Except TemplateFault (List Char × Arguments × List Char) := do
  let (args, s) ← match s with
    | '(' :: r =>
      match all with
      | .named members =>
        match takeKey 0 r with
        | none => .error .incompleteKey
        | some (key, r) =>
          match Json.findMember? (String.ofList key) members with
          | some v => .ok (Arguments.sequence [v], r)
          | none => .error (.noKey (String.ofList key))
      | .sequence _ => .error .noMapping
    | _ => .ok (args, s)
  let (d, s) := takeFlags .plain s
  let (width, args, s) ← takeSize widths args s
  let width := width.getD 0
  let d := { d with left := d.left || width < 0, width := width.natAbs }
  let (d, args, s) ← match s with
    | '.' :: r => do
      let (precision, args, r) ← takeSize precisions args r
      .ok ({ d with precision := some (precision.getD 0).toNat }, args, r)
    | _ => .ok (d, args, s)
  let s := match s with
    | 'h' :: r | 'l' :: r | 'L' :: r => r
    | _ => s
  match s with
  | [] => .error .incomplete
  | letter :: s =>
    let (v, args) ← args.next
    let shown ← { d with width := if widthLimit < d.width then 0 else d.width }.display letter (size - s.length - 1) v
    if widthLimit < d.width then .error .outOfMemory
    return (shown, args, s)

/-- The template filled in; `fuel` is at least its length. -/
def fillFrom (size : Nat) (all : Arguments) : Nat → Arguments → List Char → Except TemplateFault (List Char)
  | 0, _, _ => .ok []
  | fuel + 1, args, s =>
    match s with
    | [] =>
      match all, args with
      | .sequence _, .sequence (_ :: _) => .error .tooManyArguments
      | _, _ => .ok []
    | '%' :: '%' :: r => do return '%' :: (← fillFrom size all fuel args r)
    | '%' :: r => do
      let (shown, args, r) ← fillDirective size all args r
      return shown ++ (← fillFrom size all fuel args r)
    | c :: r => do return c :: (← fillFrom size all fuel args r)

/-- The message of a template and its arguments. A template without arguments is its own message; a
single object that is not empty gives the arguments by name. -/
def fillTemplate (template : String) (args : List Json) : Except TemplateFault String :=
  match args with
  | [] => .ok template
  | _ =>
    let all : Arguments :=
      match args with
      | [.obj (m :: ms)] => .named (m :: ms)
      | _ => .sequence args
    let s := template.toList
    (fillFrom s.length all (s.length + 1) all s).map String.ofList

end ParticipantDirectory.Text
