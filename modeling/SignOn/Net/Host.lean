import SignOn.Net.Address
import SignOn.Net.International
import SignOn.Text.Percent

/-!
# Hosts

The host of an address on the web is a domain name, a number for an address of four octets, or an
address of the long form in brackets.  Domain names are brought to lowercase ASCII; a host whose
last label is a number is read as four octets, with labels in decimal, octal or hexadecimal, the
last of which may stand for several octets.
-/

namespace SignOn.Net

set_option autoImplicit false

/-! ## Domain names -/

/-- Characters that no host may hold. -/
def forbiddenInHost : List Char :=
  ['\x00', '\t', '\n', '\r', ' ', '#', '/', ':', '<', '>', '?', '@', '[', '\\', ']', '^', '|']

/-- Whether a character may not be part of a domain name. -/
def isForbiddenInDomain (character : Char) : Bool :=
  character ∈ forbiddenInHost || character.toNat < 0x20 || character = '%' || character.toNat = 0x7F

/-! ## Numbers as hosts -/

/-- The value of a label in its base: `0x` begins hexadecimal and a zero octal digits. -/
def labelValue? (label : List Char) : Option Nat :=
  match label with
  | '0' :: 'x' :: rest | '0' :: 'X' :: rest => inBase 16 rest
  | '0' :: next :: rest => inBase 8 (next :: rest)
  | [] => none
  | rest => inBase 10 rest
where
  /-- The value of digits in a base; no digits at all are zero. -/
  inBase (base : Nat) (digits : List Char) : Option Nat :=
    digits.foldlM (fun value digit =>
      ((Text.hexValue? digit).filter (· < base)).map fun d => value * base + d) 0

/-- The labels of a host, without an empty last one. -/
def labels (host : List Char) : List (List Char) :=
  let pieces := Text.splitOn '.' host
  if pieces.length > 1 && pieces.getLast? = some [] then pieces.dropLast else pieces

/-- Whether the last label of a host is a number, in digits or in hexadecimal. -/
def endsInNumber (host : List Char) : Bool :=
  match (labels host).getLast? with
  | none => false
  | some last =>
      (!last.isEmpty && last.all Char.isDigit) ||
        ((last.take 2 = ['0', 'x'] || last.take 2 = ['0', 'X']) && (labelValue? last).isSome)

/-- The four octets that the labels of a host stand for. -/
def octetsOfLabels? (parts : List (List Char)) : Option Ipv4 := do
  if parts.length > 4 then none
  let values ← parts.mapM labelValue?
  let last ← values.getLast?
  let front := values.dropLast
  if front.any (· > 255) || last ≥ Nat.pow 256 (4 - front.length) then none
  let total := front.zipIdx.foldl
    (fun total (value, place) => total + value * Nat.pow 256 (3 - place)) last
  some ⟨UInt8.ofNat (total / 16777216), UInt8.ofNat (total / 65536), UInt8.ofNat (total / 256),
    UInt8.ofNat total⟩

/-! ## Reading hosts -/

/-- The host in brackets, as it is written in an address. -/
def bracketedHost? (inner : List Char) : Option (List Char) :=
  (readIpv6 inner).map fun address => '[' :: address.text ++ [']']

/-- A host of one of the schemes that have a domain name, as it is written in an address. -/
def domainHost? (characters : List Char) : Option (List Char) :=
  match characters with
  | '[' :: inner => if inner.getLast? = some ']' then bracketedHost? inner.dropLast else none
  | _ =>
      match Text.ofUtf8? (Text.Percent.decode characters) with
      | none => none
      | some decoded =>
          match International.ascii? decoded.toList with
          | none => none
          | some domain =>
              if domain.isEmpty || domain.any isForbiddenInDomain then none
              else if endsInNumber domain then (octetsOfLabels? (labels domain)).map Ipv4.text
              else some domain

/-- A host of any other scheme, as it is written in an address. -/
def otherHost? (characters : List Char) : Option (List Char) :=
  match characters with
  | '[' :: inner => if inner.getLast? = some ']' then bracketedHost? inner.dropLast else none
  | _ =>
      if characters.any (· ∈ forbiddenInHost) then none
      else
        some (Text.Percent.encode (fun byte => byte < 0x20 || byte > 0x7E) (String.ofList characters))

end SignOn.Net
