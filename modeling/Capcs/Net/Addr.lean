import Mathlib.Algebra.Group.Nat.Defs
import Mathlib.Tactic.Common

/-!
# Net.Addr — IP addresses and prefixes

Go's `net/netip` and the part of `net` built on it, over character lists: parsing
of IPv4 and IPv6 addresses and of prefixes, and containment. The two packages
disagree on small points and both are used, so both are here:

* `netip.ParsePrefix` splits at the last slash and refuses leading zeros in the
  length; `net.ParseCIDR` splits at the first slash and accepts them;
* `netip.Prefix.Contains` never matches across families; `net.IPNet.Contains`
  first maps an IPv4-mapped IPv6 address to IPv4.
-/

namespace Net

/-- `netip.Addr`: the family, the address as a number, and an IPv6 zone. -/
structure Addr where
  is4 : Bool
  value : Nat
  zone : String := ""
  deriving DecidableEq, Repr

/-- `BitLen`. -/
def Addr.bitLen (a : Addr) : Nat := if a.is4 then 32 else 128

/-- The value of a decimal digit. -/
def decDigit (c : Char) : Option Nat :=
  if '0' ≤ c ∧ c ≤ '9' then some (c.toNat - '0'.toNat) else none

/-- The value of a hexadecimal digit. -/
def hexDigit (c : Char) : Option Nat :=
  if '0' ≤ c ∧ c ≤ '9' then some (c.toNat - '0'.toNat)
  else if 'a' ≤ c ∧ c ≤ 'f' then some (c.toNat - 'a'.toNat + 10)
  else if 'A' ≤ c ∧ c ≤ 'F' then some (c.toNat - 'A'.toNat + 10)
  else none

/-- `parseIPv4Fields`. `digLen` counts the digits of the current field, `val` is
its value, and `done` the fields before it, newest first. -/
def parseIPv4Fields : List Char → (val digLen : Nat) → (done : List Nat) → Option (List Nat)
  | [], val, digLen, done =>
    if done.length = 3 ∧ 0 < digLen then some (val :: done).reverse else none
  | c :: rest, val, digLen, done =>
    match decDigit c with
    | some d =>
      -- a field may be "0", but not start with it
      if digLen = 1 ∧ val = 0 then none
      else if 255 < val * 10 + d then none
      else parseIPv4Fields rest (val * 10 + d) (digLen + 1) done
    | none =>
      if c = '.' ∧ 0 < digLen ∧ done.length < 3 then parseIPv4Fields rest 0 0 (val :: done)
      else none

/-- Big-endian value of a list of digits in the given base. -/
def fromDigits (base : Nat) (ds : List Nat) : Nat := ds.foldl (fun n d => n * base + d) 0

/-- `parseIPv4`. -/
def parseIPv4 (s : List Char) : Option Addr :=
  (parseIPv4Fields s 0 0 []).map fun fields => { is4 := true, value := fromDigits 256 fields }

/-- The hexadecimal digits at the start of a field, and what follows them. -/
def spanHex : List Char → List Nat × List Char
  | [] => ([], [])
  | c :: rest =>
    match hexDigit c with
    | some d => let (ds, tail) := spanHex rest; (d :: ds, tail)
    | none => ([], c :: rest)

/-- The loop of `parseIPv6` over the colon-separated fields. `groups` are the
16-bit groups so far, and `ellipsis` the position of the `::`, if met. The first
argument bounds the number of fields. -/
def parseIPv6Fields : Nat → List Char → (groups : List Nat) → (ellipsis : Option Nat) →
    Option (List Nat × Option Nat)
  | 0, s, groups, ellipsis => if s = [] then some (groups, ellipsis) else none
  | fuel + 1, s, groups, ellipsis =>
    let (ds, tail) := spanHex s
    if ds.length = 0 ∨ 4 < ds.length then none
    else
      match tail with
      | '.' :: _ =>
        -- an embedded IPv4 address takes the place of the last two groups
        if (ellipsis = none ∧ groups.length ≠ 6) ∨ 6 < groups.length then none
        else match parseIPv4Fields s 0 0 [] with
          | some [a, b, c, d] => some (groups ++ [a * 256 + b, c * 256 + d], ellipsis)
          | _ => none
      | [] => some (groups ++ [fromDigits 16 ds], ellipsis)
      | ':' :: [] => none
      | ':' :: ':' :: [] =>
        if ellipsis = none then
          some (groups ++ [fromDigits 16 ds], some (groups.length + 1)) else none
      | ':' :: ':' :: more =>
        if ellipsis = none then
          parseIPv6Fields fuel more (groups ++ [fromDigits 16 ds]) (some (groups.length + 1))
        else none
      | ':' :: more => parseIPv6Fields fuel more (groups ++ [fromDigits 16 ds]) ellipsis
      | _ => none

/-- Fill in the groups the ellipsis stands for: at least one. -/
def expandEllipsis (groups : List Nat) : Option Nat → Option (List Nat)
  | none => if groups.length = 8 then some groups else none
  | some at_ =>
    if groups.length < 8 then
      some (groups.take at_ ++ List.replicate (8 - groups.length) 0 ++ groups.drop at_)
    else none

/-- The address part of `parseIPv6`. -/
def parseIPv6Groups (s : List Char) : Option (List Nat) :=
  match s with
  | ':' :: ':' :: [] => some (List.replicate 8 0)
  | ':' :: ':' :: rest => (parseIPv6Fields 8 rest [] (some 0)).bind fun r => expandEllipsis r.1 r.2
  | _ => (parseIPv6Fields 8 s [] none).bind fun r => expandEllipsis r.1 r.2

/-- Split at the first occurrence of a character; `none` if it does not occur. -/
def splitFirst (sep : Char) : List Char → Option (List Char × List Char)
  | [] => none
  | c :: rest =>
    if c = sep then some ([], rest)
    else (splitFirst sep rest).map fun p => (c :: p.1, p.2)

/-- Split at the last occurrence of a character. -/
def splitLast (sep : Char) (s : List Char) : Option (List Char × List Char) :=
  (splitFirst sep s.reverse).map fun p => (p.2.reverse, p.1.reverse)

/-- `parseIPv6`. -/
def parseIPv6 (s : List Char) : Option Addr :=
  match splitFirst '%' s with
  | none => (parseIPv6Groups s).map fun gs => { is4 := false, value := fromDigits 65536 gs }
  | some (_, []) => none
  | some (addr, zone) => (parseIPv6Groups addr).map fun gs =>
      { is4 := false, value := fromDigits 65536 gs, zone := String.ofList zone }

/-- `netip.ParseAddr`: the first of `.`, `:` and `%` decides the family. -/
def parseAddrChars (s : List Char) : Option Addr :=
  match s.find? fun c => c = '.' ∨ c = ':' ∨ c = '%' with
  | some '.' => parseIPv4 s
  | some ':' => parseIPv6 s
  | _ => none

/-- `netip.ParseAddr`. -/
def parseAddr (s : String) : Option Addr := parseAddrChars s.toList

/-- A decimal number without sign. -/
def parseDec (s : List Char) : Option Nat :=
  if s = [] then none else (s.mapM decDigit).map (fromDigits 10)

/-- `netip.Prefix`, with the length inside the address. -/
structure Prefix where
  addr : Addr
  bits : Nat
  bits_le : bits ≤ addr.bitLen
  deriving DecidableEq, Repr

/-- The prefix of an address and a length, if the length fits. -/
def Prefix.ofBits (addr : Addr) (bits : Nat) : Option Prefix :=
  if h : bits ≤ addr.bitLen then some ⟨addr, bits, h⟩ else none

/-- `netip.ParsePrefix`. -/
def parsePrefix (s : String) : Option Prefix := do
  let (addr, bitsStr) ← splitLast '/' s.toList
  let ip ← parseAddrChars addr
  if ip.zone ≠ "" then none
  -- a longer length may not start with a zero or a sign
  else if 1 < bitsStr.length ∧ bitsStr.head? = some '0' then none
  else Prefix.ofBits ip (← parseDec bitsStr)

/-- `netip.Prefix.Contains`. -/
def Prefix.contains (p : Prefix) (ip : Addr) : Bool :=
  ip.zone = "" ∧ p.addr.is4 = ip.is4 ∧
    p.addr.value / 2 ^ (p.addr.bitLen - p.bits) = ip.value / 2 ^ (p.addr.bitLen - p.bits)

/-! ## Package `net` -/

/-- `To4`: an IPv4-mapped IPv6 address is an IPv4 address. -/
def Addr.unmap (a : Addr) : Addr :=
  if !a.is4 && a.value / 2 ^ 32 = 0xffff then { is4 := true, value := a.value % 2 ^ 32 } else a

/-- `net.ParseIP`: like `ParseAddr`, but without zones. -/
def parseIP (s : String) : Option Addr :=
  (parseAddr s).bind fun a => if a.zone = "" then some a.unmap else none

/-- `net.ParseCIDR`, the network part. -/
def parseCIDR (s : String) : Option Prefix := do
  let (addr, mask) ← splitFirst '/' s.toList
  let ip ← parseAddrChars addr
  if ip.zone ≠ "" then none else Prefix.ofBits ip (← parseDec mask)

/-- The address that `ParseCIDR` keeps, with the bits after the prefix cleared. -/
def Prefix.masked (p : Prefix) : Addr :=
  { p.addr with
    value := p.addr.value / 2 ^ (p.addr.bitLen - p.bits) * 2 ^ (p.addr.bitLen - p.bits) }

/-- The prefix as `net.IPNet` compares it: a network whose masked address is
IPv4-mapped is cut down to the last four bytes of its address and mask. With
fewer than 96 bits the mask leaves no such address. -/
def Prefix.unmap (p : Prefix) : Addr × Nat :=
  if !p.addr.is4 && p.masked.unmap.is4 then (p.masked.unmap, p.bits - 96) else (p.masked, p.bits)

/-- `net.IPNet.Contains`, for an address from `parseIP`. -/
def Prefix.ipNetContains (p : Prefix) (ip : Addr) : Bool :=
  let (net, bits) := p.unmap
  net.is4 = ip.is4 ∧ net.value / 2 ^ (net.bitLen - bits) = ip.value / 2 ^ (net.bitLen - bits)

example : (parseIP "10.0.0.7").map (fun ip => (parseCIDR "10.0.0.0/24").map (·.ipNetContains ip)) =
    some (some true) := by decide

example : ["::ffff:10.0.0.0/90", "::ffff:10.0.0.0/120"].map
  (fun cidr => (parseIP "10.0.0.7").map fun ip =>
    (parseCIDR cidr).map (·.ipNetContains ip)) = [some (some false), some (some true)] := by decide

example : (parseAddr "fe80::1:2").map (·.value) = some (0xfe80 * 2 ^ 112 + 2 ^ 16 + 2) := by decide

end Net
