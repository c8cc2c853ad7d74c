import BulkSql.Text.Blank
import BulkSql.Text.Hex

/-!
Where a database is and how to connect to it: an address in the form of a URL, or a list of
`name=value` pairs.
-/
namespace BulkSql

/-- The parameters of an address, in their order. -/
structure Address where
  parameters : List (String × String) := []
  deriving DecidableEq, Repr

namespace Address

/-! ### Parameters -/

def splitOn (separator : Char) : List Char → List (List Char)
  | [] => [[]]
  | c :: cs =>
    if c = separator then [] :: splitOn separator cs
    else
      match splitOn separator cs with
      | [] => [[c]]
      | part :: parts => (c :: part) :: parts

/-- A number without a sign or with a plus, up to `most`. -/
def isNatural (most : Nat) (s : List Char) : Bool :=
  let digits := if s.head? = some '+' then s.drop 1 else s
  !digits.isEmpty && digits.all Char.isDigit && (String.ofList digits).toNat?.any (· ≤ most)

/-- A signed number of 64 bits. -/
def isInteger (s : List Char) : Bool :=
  match s with
  | '-' :: digits => digits.all Char.isDigit && isNatural 9223372036854775808 digits
  | s => isNatural 9223372036854775807 s

/-- One of the four numbers of an address of the fourth version. -/
def isOctet (s : List Char) : Bool :=
  isNatural 255 s && s.length ≤ 3 && s.all Char.isDigit && (s.head? != some '0' || s.length == 1)

def isVersion4 (s : List Char) : Bool :=
  let parts := splitOn '.' s
  parts.length == 4 && parts.all isOctet

def isGroup (s : List Char) : Bool :=
  !s.isEmpty && s.length ≤ 4 && s.all fun c => (Hex.digit? c).isSome

/-- How many groups stand in a row; an address of the fourth version at the end counts as two. -/
def groupCount? : List (List Char) → Option Nat
  | [] => some 0
  | [s] => if isGroup s then some 1 else if isVersion4 s then some 2 else none
  | s :: t :: rest => if isGroup s then (groupCount? (t :: rest)).map (· + 1) else none

/-- The text before and behind the first two colons in a row. -/
def splitColons? : List Char → Option (List Char × List Char)
  | ':' :: ':' :: rest => some ([], rest)
  | c :: rest => (splitColons? rest).map fun (a, b) => (c :: a, b)
  | [] => none

def groupsOf (s : List Char) : List (List Char) := if s.isEmpty then [] else splitOn ':' s

/-- Eight groups, or fewer with two colons in place of those that are zero. -/
def isVersion6 (s : List Char) : Bool :=
  match splitColons? s with
  | none => groupCount? (splitOn ':' s) == some 8
  | some (a, b) =>
    (groupsOf a).all isGroup && (groupCount? (groupsOf b)).any fun n => (groupsOf a).length + n < 8

def isNetworkAddress (s : List Char) : Bool := isVersion4 s || isVersion6 s

/-- Whether a parameter is known and can have the value. -/
def accepts (name : String) (value : List Char) : Bool :=
  let parts := splitOn ',' value
  match name with
  | "user" | "password" | "dbname" | "options" | "application_name" | "host" => true
  | "sslmode" => ["disable", "prefer", "require"].contains (String.ofList value)
  | "sslnegotiation" => ["postgres", "direct"].contains (String.ofList value)
  | "hostaddr" => parts.all isNetworkAddress
  | "port" => parts.all fun p => p.isEmpty || isNatural 65535 p
  | "connect_timeout" | "tcp_user_timeout" | "keepalives_idle" | "keepalives_interval" =>
    isInteger value
  | "keepalives" => isNatural 18446744073709551615 value
  | "keepalives_retries" => isNatural 4294967295 value
  | "target_session_attrs" =>
    ["any", "read-write", "read-only"].contains (String.ofList value)
  | "channel_binding" => ["disable", "prefer", "require"].contains (String.ofList value)
  | "load_balance_hosts" => ["disable", "random"].contains (String.ofList value)
  | _ => false

/-- One more parameter. -/
def with? (a : Address) (name : String) (value : List Char) : Option Address :=
  if accepts name value then some ⟨a.parameters ++ [(name, .ofList value)]⟩ else none

/-! ### Pairs -/

/-- A value up to the next blank. A backslash stands before a character that is meant as it is. -/
def plainValue : List Char → List Char × List Char
  | [] => ([], [])
  | ['\\'] => ([], [])
  | '\\' :: d :: rest => let (v, r) := plainValue rest; (d :: v, r)
  | c :: rest =>
    if isBlank c then ([], c :: rest) else let (v, r) := plainValue rest; (c :: v, r)

/-- A value up to its closing quote. -/
def quotedValue? : List Char → Option (List Char × List Char)
  | [] => none
  | ['\\'] => none
  | '\\' :: d :: rest => (quotedValue? rest).map fun (v, r) => (d :: v, r)
  | c :: rest =>
    if c = '\'' then some ([], rest) else (quotedValue? rest).map fun (v, r) => (c :: v, r)

def value? : List Char → Option (List Char × List Char)
  | '\'' :: rest => quotedValue? rest
  | s => if (plainValue s).1.isEmpty then none else some (plainValue s)

def isKeyChar (c : Char) : Bool := !isBlank c && c != '='

/-- A name and its value; no name ends the list. What is left gets shorter with each pair. -/
def ofPairs? (a : Address) (s : List Char) : Option Address :=
  let s' := Blank.trimStart s
  let name := s'.takeWhile isKeyChar
  if name.isEmpty then some a
  else
    match Blank.trimStart (s'.drop name.length) with
    | '=' :: rest =>
      match value? (Blank.trimStart rest) with
      | some (value, rest) =>
        match a.with? (.ofList name) value with
        | some a => if _h : rest.length < s.length then ofPairs? a rest else none
        | none => none
      | none => none
    | _ => none
termination_by s.length

/-! ### URLs -/

/-- The bytes of a text in which a percent sign and two digits stand for a byte. -/
def percentDecoded : List Char → List UInt8
  | [] => []
  | [c] => String.utf8EncodeChar c
  | [c, d] => String.utf8EncodeChar c ++ String.utf8EncodeChar d
  | c :: d :: e :: rest =>
    match c, Hex.digit? d, Hex.digit? e with
    | '%', some high, some low => UInt8.ofNat (high * 16 + low) :: percentDecoded rest
    | _, _, _ => String.utf8EncodeChar c ++ percentDecoded (d :: e :: rest)

/-- The text that the bytes are in UTF-8. -/
def decoded? (s : List Char) : Option (List Char) :=
  (String.fromUTF8? ⟨(percentDecoded s).toArray⟩).map String.toList

/-- One more parameter from a URL. -/
def withDecoded? (a : Address) (name : String) (value : List Char) : Option Address := do
  a.with? name (← decoded? value)

/-- The address of a host, or a path, which can hold any bytes. -/
def withHost? (a : Address) (host : List Char) : Option Address :=
  if (percentDecoded host).head? = some '/'.val.toUInt8 then
    a.with? "host" ((decoded? host).getD host)
  else a.withDecoded? "host" host

/-- The text before the first of some characters, and the text from there on. -/
def cut (stops : List Char) (s : List Char) : List Char × List Char :=
  (s.takeWhile (!stops.contains ·), s.dropWhile (!stops.contains ·))

/-- User and password, if there is an `@`. -/
def ofCredentials? (a : Address) (s : List Char) : Option (Address × List Char) :=
  match cut ['@'] s with
  | (_, []) => some (a, s)
  | (credentials, _ :: rest) => do
    let (user, password) := cut [':'] credentials
    let a ← a.withDecoded? "user" user
    match password with
    | [] => return (a, rest)
    | _ :: password => return (← a.with? "password" ((decoded? password).getD password), rest)

/-- A host and its port. An address in brackets can hold colons. -/
def hostAndPort? (s : List Char) : Option (List Char × List Char) :=
  match s with
  | '[' :: inner =>
    match cut [']'] inner with
    | (_, []) => none
    | (host, [_]) => some (host, "5432".toList)
    | (host, _ :: ':' :: port) => some (host, port)
    | _ => none
  | s =>
    match cut [':'] s with
    | (host, []) => some (host, "5432".toList)
    | (host, _ :: port) => some (host, port)

def ofHosts? (a : Address) : List (List Char) → Option Address
  | [] => some a
  | s :: rest => do
    let (host, port) ← hostAndPort? s
    let a ← a.withHost? host
    ofHosts? (← a.withDecoded? "port" port) rest

/-- The parameters behind a question mark. An `&` at the end adds none. -/
def ofQuery? (a : Address) : List (List Char) → Option Address
  | [] => some a
  | s :: rest =>
    if s.isEmpty && rest.isEmpty then some a
    else
      match cut ['='] s with
      | (_, []) => none
      | (name, _ :: value) => do
        let name ← decoded? name
        let a ← if name = "host".toList then a.withHost? value
          else a.withDecoded? (.ofList name) value
        ofQuery? a rest

/-- An address from what follows the scheme of a URL. -/
def ofUrl? (s : List Char) : Option Address := do
  let (a, s) ← ofCredentials? {} s
  let (hosts, s) := cut ['/', '?'] s
  let a ← if hosts.isEmpty then some a else ofHosts? a (splitOn ',' hosts)
  let (path, s) := if s.head? = some '/' then cut ['?'] (s.drop 1) else ([], s)
  let a ← if path.isEmpty then some a else a.withDecoded? "dbname" path
  match s with
  | [] => return a
  | _ :: query => ofQuery? a (splitOn '&' query)

/-- What follows `start` in a text. -/
def stripped? (start s : List Char) : Option (List Char) :=
  if start.isPrefixOf s then some (s.drop start.length) else none

def parse? (text : String) : Option Address :=
  let s := text.toList
  match stripped? "postgres://".toList s, stripped? "postgresql://".toList s with
  | some rest, _ => ofUrl? rest
  | none, some rest => ofUrl? rest
  | none, none => ofPairs? {} s

end Address

end BulkSql
