import ChainActivity.Amount.Radix
import ChainActivity.Decimal.Point
import ChainActivity.Token.Decimals

/-!
# Amounts of tokens

An amount of a token is an exact number of smallest units together with the token's
decimal places; the number that a reader sees is kept beside it.

## Main definitions

* `TokenAmount` — a number of units of a token, and `TokenAmount.of`.
* `TokenAmount.zero`, `TokenAmount.absent` — nothing of a token, and no amount at all.
* `TokenError` — why there is no such amount, with `TokenError.message`.
* `TokenAmount.ofUnits`, `ofHex`, `ofDecimal`, `ofScaled` — amounts of a token whose
  decimal places are looked up.
* `TokenAmount.add`, `TokenAmount.sub` — sum and difference of amounts of one token.

## Design notes

Units never pass through a double.  An amount that a reader gives is a double, and is
brought to units through its decimal text.
-/

namespace ChainActivity

/-- A number of units of a token.  An empty identifier marks an amount that does not
apply. -/
structure TokenAmount where
  /-- The number of smallest units. -/
  units : Amount
  /-- The decimal places of the token. -/
  decimals : UInt32
  /-- The number that a reader sees. -/
  scaled : Float
  /-- The identifier of the token. -/
  token : String
  deriving Repr

/-- Why there is no amount of a token. -/
inductive TokenError where
  /-- The text of the amount cannot be read. -/
  | amount (fault : AmountError)
  /-- The scaled amount is negative or not finite. -/
  | notRepresentable (scaled : Float)
  /-- The decimal places of the token are not known. -/
  | unknownToken (token : String)
  /-- The two amounts are of different tokens. -/
  | mismatch (left right : String)
  /-- The sum or the difference is not an amount. -/
  | overflow (token : String)
  deriving Repr

/-- The error in words. -/
def TokenError.message : TokenError → String
  | .amount fault => fault.message
  | .notRepresentable scaled =>
    s!"Scaled amount is not representable: {String.ofList (Layout.plain.render scaled)}"
  | .unknownToken token => s!"No decimal places known for token {token}"
  | .mismatch left right => s!"Token mismatch: {left} vs {right}"
  | .overflow token => s!"Arithmetic overflow on {token}"

namespace TokenAmount

/-- A number of units with its scaled form. -/
def of (units : Amount) (decimals : UInt32) (token : String) : TokenAmount where
  units := units
  decimals := decimals
  scaled := Decimal.scale units.toNat decimals
  token := token

/-- Nothing of a token, without decimal places. -/
def zero (token : String) : TokenAmount :=
  of .zero 0 token

/-- No amount at all. -/
def absent : TokenAmount :=
  of .zero 0 ""

instance : Inhabited TokenAmount := ⟨absent⟩

/-- Whether there is no amount. -/
def isAbsent (v : TokenAmount) : Bool :=
  v.token = ""

/-- Whether the number of units is zero. -/
def isZero (v : TokenAmount) : Bool :=
  v.units.toNat = 0

/-- The ticker of the token. -/
def ticker (v : TokenAmount) : String :=
  Token.ticker v.token

/-- The number of units as lower-case hexadecimal digits, two for each byte. -/
def toHex (v : TokenAmount) : String :=
  String.ofList (Hex.ofNat v.units.toNat)

/-! ### Amounts of known tokens -/

/-- An amount of a token, given in units. -/
def ofUnits (decimals : Decimals) (token : String) (units : Amount) :
    Except TokenError TokenAmount :=
  match decimals token with
  | some places => .ok (of units places token)
  | none => .error (.unknownToken token)

/-- An amount of a token, given as digits of a base. -/
def ofText (decimals : Decimals) (token : String) (base : Nat) (text : String) :
    Except TokenError TokenAmount :=
  match Amount.ofText base text with
  | .ok units => ofUnits decimals token units
  | .error fault => .error (.amount fault)

/-- An amount of a token, given as decimal digits. -/
def ofDecimal (decimals : Decimals) (token text : String) : Except TokenError TokenAmount :=
  ofText decimals token 10 text

/-- An amount of a token, given as hexadecimal digits with or without the mark `0x`. -/
def ofHex (decimals : Decimals) (token text : String) : Except TokenError TokenAmount :=
  ofText decimals token 16 (Hex.withoutMark text)

/-- An amount of a token, given as a reader sees it.  Digits below the smallest unit
are cut off. -/
def ofScaled (decimals : Decimals) (token : String) (scaled : Float) :
    Except TokenError TokenAmount :=
  if scaled.isFinite && !(scaled < 0) then
    match decimals token with
    | none => .error (.unknownToken token)
    | some places =>
      let digits := Decimal.shiftPoint (Layout.plain.render scaled) places.toNat
      match Amount.ofText 10 (String.ofList digits) with
      | .ok units => .ok (of units places token)
      | .error fault => .error (.amount fault)
  else .error (.notRepresentable scaled)

/-- The amount, or another one if there is none. -/
def orElse (result : Except TokenError TokenAmount) (default : TokenAmount) : TokenAmount :=
  match result with
  | .ok v => v
  | .error _ => default

/-- An amount of a token, given in units; zero if the token is not known. -/
def ofUnitsOrZero (decimals : Decimals) (token : String) (units : Amount) : TokenAmount :=
  orElse (ofUnits decimals token units) (zero token)

/-- An amount of a token, given as decimal digits; zero if there is none. -/
def ofDecimalOrZero (decimals : Decimals) (token text : String) : TokenAmount :=
  orElse (ofDecimal decimals token text) (zero token)

/-! ### Arithmetic -/

/-- Replaces the number of units by one that is computed from another amount of the
same token. -/
def combine (op : Amount → Amount → Option Amount) (v w : TokenAmount) :
    Except TokenError TokenAmount :=
  if v.token = w.token then
    match op v.units w.units with
    | some units => .ok (of units v.decimals v.token)
    | none => .error (.overflow v.token)
  else .error (.mismatch v.token w.token)

/-- The sum of two amounts of one token. -/
def checkedAdd (v w : TokenAmount) : Except TokenError TokenAmount :=
  combine Amount.add? v w

/-- The difference of two amounts of one token. -/
def checkedSub (v w : TokenAmount) : Except TokenError TokenAmount :=
  combine Amount.sub? v w

/-- The sum, or the first amount if there is none. -/
def add (v w : TokenAmount) : TokenAmount :=
  orElse (checkedAdd v w) v

/-- The difference, or the first amount if there is none. -/
def sub (v w : TokenAmount) : TokenAmount :=
  orElse (checkedSub v w) v

/-! ### Laws -/

@[simp] theorem units_of (units : Amount) (decimals : UInt32) (token : String) :
    (of units decimals token).units = units := rfl

@[simp] theorem decimals_of (units : Amount) (decimals : UInt32) (token : String) :
    (of units decimals token).decimals = decimals := rfl

@[simp] theorem token_of (units : Amount) (decimals : UInt32) (token : String) :
    (of units decimals token).token = token := rfl

/-- An amount that falls back to zero is an amount of the token that was asked for. -/
@[simp] theorem token_ofUnitsOrZero (decimals : Decimals) (token : String) (units : Amount) :
    (ofUnitsOrZero decimals token units).token = token := by
  unfold ofUnitsOrZero ofUnits
  split <;> rfl

@[simp] theorem token_ofDecimalOrZero (decimals : Decimals) (token text : String) :
    (ofDecimalOrZero decimals token text).token = token := by
  unfold ofDecimalOrZero ofDecimal ofText
  cases Amount.ofText 10 text with
  | error fault => rfl
  | ok units => exact token_ofUnitsOrZero decimals token units

end TokenAmount

end ChainActivity
