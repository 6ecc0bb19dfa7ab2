/-!
# Media types

`announcesJson` tells whether the media type of a request is that of JSON: `application/json`, or
any type under `application` with the suffix `+json`. Upper and lower case are the same, and
parameters are allowed.
-/

namespace MoveRating.MediaType

/-- The character may stand in the name of a type or parameter. -/
def isToken (c : Char) : Bool := c.isAlphanum || "!#$%&'*+-.^_`|~".toList.contains c

/-- The character may stand between quotation marks. -/
def isQuotable (c : Char) : Bool := decide (31 < c.toNat) && c != '\x7f'

/-- What follows a value between quotation marks, after the opening one. The first character
belongs to the value whatever it is. -/
def afterQuoted? : List Char → Option (List Char)
  | [] => none
  | c :: cs =>
    if isQuotable c then
      match cs.dropWhile fun c => isQuotable c && c != '"' with
      | '"' :: rest => some (rest.dropWhile (· == ' '))
      | _ => none
    else none

/-- The parameters, each after a semicolon, are well formed. -/
def parametersOk : Nat → List Char → Bool
  | _, [] => true
  | 0, _ => false
  | fuel + 1, ' ' :: cs => parametersOk fuel cs
  | fuel + 1, cs =>
    let next (rest : List Char) : Bool :=
      match rest with
      | [] => true
      | ';' :: rest => parametersOk fuel rest
      | _ => false
    match cs.takeWhile isToken, cs.dropWhile isToken with
    | _ :: _, '=' :: '"' :: value => (afterQuoted? value).any next
    | _ :: _, '=' :: value =>
      match value.takeWhile isToken, value.dropWhile isToken with
      | [], rest => rest.isEmpty
      | _ :: _, rest => next rest
    | _, _ => false

/-- The part of a subtype after its last plus sign, unless that is its first character. -/
def suffix? (subtype : List Char) : Option (List Char) :=
  if (subtype.drop 1).contains '+' then some (subtype.reverse.takeWhile (· != '+')).reverse
  else none

/-- The part of a subtype before its suffix. -/
def essence (subtype : List Char) : List Char :=
  match suffix? subtype with
  | some s => subtype.take (subtype.length - s.length - 1)
  | none => subtype

/-- The subtype denotes JSON. -/
def isJsonSubtype (subtype : List Char) : Bool :=
  essence subtype == "json".toList || suffix? subtype == some "json".toList

/-- Only visible characters, blanks and tabs stand in a header. -/
def isHeaderChar (c : Char) : Bool := decide (31 < c.toNat ∧ c.toNat < 127) || c == '\t'

/-- The media type is one of JSON. -/
def announcesJson (mediaType : String) : Bool :=
  let cs := mediaType.toList
  let type := cs.takeWhile isToken
  match cs.dropWhile isToken with
  | '/' :: rest =>
    let subtype := rest.takeWhile isToken
    let parameters := rest.dropWhile isToken
    let parametersOk := match parameters with
      | [] => true
      | ';' :: ps => !subtype.isEmpty && parametersOk (ps.length + 1) ps
      | _ => false
    cs.all isHeaderChar && parametersOk && type.map Char.toLower == "application".toList &&
      isJsonSubtype (subtype.map Char.toLower)
  | _ => false

end MoveRating.MediaType
