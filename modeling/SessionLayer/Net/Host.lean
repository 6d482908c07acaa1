import SessionLayer.Text.Digits

/-!
# Hosts

A host is known by its address, which is four bytes in the fourth version and
eight groups of sixteen bits in the sixth. An address of the fourth version and
the same address written in the sixth are different hosts.
-/

namespace SessionLayer

/-- An address of the fourth version. -/
structure IPv4 where
  bytes : Vector UInt8 4
  deriving DecidableEq, Inhabited

/-- An address of the sixth version. -/
structure IPv6 where
  groups : Vector UInt16 8
  deriving DecidableEq, Inhabited

/-- The address of a host. -/
inductive Host
  | v4 (ip : IPv4)
  | v6 (ip : IPv6)
  deriving DecidableEq, Inhabited

namespace IPv4

/-- The text of an address: its bytes in decimal, with points between them. -/
def text (ip : IPv4) : String :=
  ".".intercalate (ip.bytes.toList.map fun byte => toString byte.toNat)

/-- The byte that decimal digits write, without needless zeros. -/
def byte? (digits : List Char) : Option UInt8 :=
  if 1 < digits.length ∧ digits.head? = some '0' then none
  else (Digits.below? 256 10 digits).map UInt8.ofNat

/-- The address with this text. -/
def ofText? (text : List Char) : Option IPv4 := do
  match ← (text.splitOn '.').mapM byte? with
  | [a, b, c, d] => some ⟨#v[a, b, c, d]⟩
  | _ => none

/-- The two groups that an address takes up in one of the sixth version. -/
def groups (ip : IPv4) : List UInt16 :=
  let pair (high low : UInt8) : UInt16 := UInt16.ofNat (high.toNat * 256 + low.toNat)
  [pair ip.bytes[0] ip.bytes[1], pair ip.bytes[2] ip.bytes[3]]

/-- Whether an address leads back to the machine itself. -/
def isLoopback (ip : IPv4) : Bool := ip.bytes[0] = 127

/-- Whether an address names no host: a server that listens there hears what is
sent to any address of its machine. -/
def isUnspecified (ip : IPv4) : Bool := ip.bytes.toList.all (· = 0)

end IPv4

namespace IPv6

/-- Groups in hexadecimal, with colons between them. -/
def joined (groups : List UInt16) : String :=
  ":".intercalate (groups.map fun group => String.ofList (Nat.toDigits 16 group.toNat))

/-- How many groups are zero from some place on. -/
def zerosAt (groups : List UInt16) (place : Nat) : Nat :=
  ((groups.drop place).takeWhile (· = 0)).length

/-- Where the most groups in a row are zero; the first such place. -/
def gapPlace (groups : List UInt16) : Nat :=
  (List.range groups.length).foldl
    (fun best place => if zerosAt groups best < zerosAt groups place then place else best) 0

/-- The address of the fourth version that an address stands for, if it does. -/
def mapped? (ip : IPv6) : Option IPv4 :=
  match ip.groups.toList with
  | [0, 0, 0, 0, 0, 0xffff, high, low] =>
    let byte (value : Nat) : UInt8 := UInt8.ofNat value
    some ⟨#v[byte (high.toNat / 256), byte high.toNat, byte (low.toNat / 256), byte low.toNat]⟩
  | _ => none

/-- The text of an address. Two colons stand for the zero groups, if there is
more than one in a row. -/
def text (ip : IPv6) : String :=
  match ip.mapped? with
  | some inner => "::ffff:" ++ inner.text
  | none =>
    let groups := ip.groups.toList
    let place := gapPlace groups
    let zeros := zerosAt groups place
    if zeros ≤ 1 then joined groups
    else joined (groups.take place) ++ "::" ++ joined (groups.drop (place + zeros))

/-- The group that hexadecimal digits write, at most four of them. -/
def group? (digits : List Char) : Option UInt16 :=
  if 4 < digits.length then none else (Digits.number? 16 digits).map UInt16.ofNat

/-- The groups with these texts. The last text may be an address of the fourth
version, where that is allowed. -/
def groupsOf? (endsInV4 : Bool) : List (List Char) → Option (List UInt16)
  | [] => some []
  | [last] =>
    ((group? last).map fun group => [group]) <|>
      if endsInV4 then (IPv4.ofText? last).map IPv4.groups else none
  | first :: rest => do return (← group? first) :: (← groupsOf? endsInV4 rest)

/-- The groups on one side of two colons, of which there may be none. -/
def side? (endsInV4 : Bool) : List Char → Option (List UInt16)
  | [] => some []
  | text => groupsOf? endsInV4 (text.splitOn ':')

/-- What stands in front of the first two colons in a row, and what stands
behind them. -/
def splitAtGap : List Char → List Char × Option (List Char)
  | [] => ([], none)
  | ':' :: ':' :: rest => ([], some rest)
  | c :: rest => ((c :: (splitAtGap rest).1), (splitAtGap rest).2)

/-- The address of eight groups. -/
def ofGroups? (groups : List UInt16) : Option IPv6 :=
  if eight : groups.length = 8 then some ⟨⟨groups.toArray, by simpa using eight⟩⟩ else none

/-- The address with this text. Two colons stand for at least one zero group. -/
def ofText? (text : List Char) : Option IPv6 := do
  match splitAtGap text with
  | (whole, none) => ofGroups? (← side? true whole)
  | (front, some back) =>
    let front ← side? false front
    let back ← side? true back
    let given := front.length + back.length
    if 8 ≤ given then none
    else ofGroups? (front ++ List.replicate (8 - given) 0 ++ back)

/-- Whether an address leads back to the machine itself. -/
def isLoopback (ip : IPv6) : Bool := ip.groups.toList = [0, 0, 0, 0, 0, 0, 0, 1]

/-- Whether an address names no host: a server that listens there hears what is
sent to any address of its machine. -/
def isUnspecified (ip : IPv6) : Bool := ip.groups.toList.all (· = 0)

/-- Whether an address names a group of hosts. -/
def isMulticast (ip : IPv6) : Bool := ip.groups[0] / 256 = 0xff

/-- Whether the group that an address names lies within one network, which the
address itself leaves open. -/
def needsScope (ip : IPv6) : Bool :=
  let reach := ip.groups[0] % 16
  ip.isMulticast && (reach = 1 || reach = 2)

end IPv6

namespace Host

/-- The text of a host. -/
def text : Host → String
  | v4 ip => ip.text
  | v6 ip => ip.text

/-- The host with this text. -/
def ofText? (text : String) : Option Host :=
  (IPv4.ofText? text.toList).map v4 <|> (IPv6.ofText? text.toList).map v6

end Host

end SessionLayer
