import SqlRelay.Foundation.Wire
import SqlRelay.Postgresql.NumericBounds
import SqlRelay.Postgresql.Session

/-!
# Reading the messages of the extended query protocol

What the handlers of Parse, Bind, Describe, Execute and Close read from their packets.  A handler gives
nothing if it reads a byte that is not of the packet.  Some of the reads are checked before and some are
not, and a Bind moves its pointer over the bytes that a type takes and not over those that the size of
the parameter declares.
-/

namespace SqlRelay.Postgresql.Messages

open SqlRelay.Foundation SqlRelay.Foundation.CString

/-- What an ErrorResponse says. -/
structure ErrorResponse where
  sqlstate : String
  message : String
  deriving DecidableEq, Repr

/-- `sendErrorResponse` without a sqlstate. -/
def syntaxError (message : String) : ErrorResponse := ⟨"42601", message⟩

def tooManyBinds : ErrorResponse := syntaxError "Too many bind variables"
def invalidSize : ErrorResponse := ⟨"22003", "Invalid parameter size"⟩

/-- What a handler that keeps to its packet makes of it. -/
abbrev Outcome (Value : Type) := Except ErrorResponse Value

/-! ## The packet -/

/-- `readString`: the byte at the pointer is looked at before the end of the packet is. -/
def readString : List Byte → Option (List Byte × List Byte)
  | [] => none
  | byte :: rest =>
      if byte = 0 then some ([], rest)
      else (readString rest).map fun (text, rest) => (byte :: text, rest)

def readBE (size : Nat) (rp : List Byte) : Option (Nat × List Byte) :=
  (Receiver.bytes size rp).map fun (bytes, rest) => (ByteOrder.big.read bytes, rest)

/-- The loops of `readBE`. -/
def readAll (size : Nat) : Nat → List Byte → Option (List Nat × List Byte)
  | 0, rp => some ([], rp)
  | count + 1, rp => do
      let (value, rp) ← readBE size rp
      let (values, rp) ← readAll size count rp
      some (value :: values, rp)

/-! ## Parameters -/

/-- What a parameter is bound as; a double by its bits. -/
inductive BindValue where
  | null
  | nullBlob
  | nullClob
  | string (bytes : List Byte)
  | clob (bytes : List Byte)
  | blob (bytes : List Byte)
  | integer (value : Int)
  | double (size bits : Nat)
  deriving DecidableEq, Repr

/-- The types that `bindBinaryParameter` takes. -/
inductive BinaryType where
  | bool
  | int (size : Nat)
  | float (size : Nat)
  | char
  | text
  | bytea
  | numeric
  deriving DecidableEq, Repr

def binaryType (oid : Nat) : Option BinaryType :=
  match oid with
  | 16 | 1000 => some .bool
  | 21 | 1005 => some (.int 2)
  | 23 | 1007 => some (.int 4)
  | 20 | 1016 => some (.int 8)
  | 700 | 1021 => some (.float 4)
  | 701 | 1022 => some (.float 8)
  | 18 | 1002 | 1014 | 1015 | 1042 | 1043 => some .char
  | 25 | 1009 => some .text
  | 17 | 1001 => some .bytea
  | 1700 | 1231 => some .numeric
  | _ => none

/-- The cases for the types of a fixed size. -/
def bindFixed (size : Nat) (value : Nat → BindValue) (paramsize : Nat) (rp : List Byte) :
    Option (Outcome (BindValue × List Byte)) :=
  if rp.length < size ∨ paramsize < size then some (.error invalidSize)
  else (readBE size rp).map fun (number, rest) => .ok (value number, rest)

/-- The cases for the types whose bytes are copied. -/
def bindBytes (value : List Byte → BindValue) (paramsize : Nat) (rp : List Byte) :
    Option (Outcome (BindValue × List Byte)) :=
  (Receiver.bytes paramsize rp).map fun (bytes, rest) => .ok (value bytes, rest)

def bindTextParameter (paramsize : Nat) (rp : List Byte) :
    Option (Outcome (BindValue × List Byte)) :=
  bindBytes .string paramsize rp

def bindBinaryType (paramsize : Nat) (rp : List Byte) :
    BinaryType → Option (Outcome (BindValue × List Byte))
  | .bool => bindFixed 1 (fun number => .integer number) paramsize rp
  | .int size => bindFixed size (fun number => .integer (signed (8 * size) number)) paramsize rp
  | .float size => bindFixed size (.double size) paramsize rp
  | .char => bindTextParameter paramsize rp
  | .text => bindBytes .clob paramsize rp
  | .bytea => bindBytes .blob paramsize rp
  | .numeric =>
      (Numeric.bindNumericWithin paramsize rp).map fun
        | .error message => .error ⟨"22003", message⟩
        | .ok (text, rest) => .ok (.string text, rest)

def bindBinaryParameter (oid paramsize : Nat) (rp : List Byte) :
    Option (Outcome (BindValue × List Byte)) :=
  match binaryType oid with
  | none => some (.error (syntaxError ("parameter oid " ++ toString oid ++ " not supported")))
  | some type => bindBinaryType paramsize rp type

/-- The size of a parameter that is null. -/
def nullSize : Nat := 2 ^ 32 - 1

def nullValue (oid : Option Nat) : BindValue :=
  match oid with
  | some 17 | some 1001 => .nullBlob
  | some 25 | some 1009 => .nullClob
  | _ => .null

/-- What the loop over the parameters does with one of them. -/
def bindValue (paramformatcodes : List Nat) (oid : Option Nat) (i paramsize : Nat)
    (rp : List Byte) : Option (Outcome (BindValue × List Byte)) :=
  if paramsize = nullSize then some (.ok (nullValue oid, rp))
  else if rp.length < paramsize then some (.error invalidSize)
  else if formatCode paramformatcodes i = 0 then bindTextParameter paramsize rp
  else
    match oid with
    | none => some (.error ⟨"26000", "Invalid bind parameters"⟩)
    | some oid => bindBinaryParameter oid paramsize rp

/-- A parameter that was bound: its declared size, the bytes that the pointer was moved over, and what
it was bound as. -/
structure Parameter where
  paramsize : Nat
  bytes : List Byte
  value : BindValue
  deriving DecidableEq, Repr

/-- The types of the Parse are looked at only if there are format codes. -/
def paramOid (paramformatcodes oids : List Nat) (i : Nat) : Option Nat :=
  if paramformatcodes = [] then none else oids[i]?

/-- The loop over so many parameters, from parameter `i` on: those that were bound, and the packet
behind them or an error. -/
def bindValues (paramformatcodes oids : List Nat) :
    Nat → Nat → List Byte → Option (List Parameter × Outcome (List Byte))
  | _, 0, rp => some ([], .ok rp)
  | i, count + 1, rp =>
      if rp.length < 4 then some ([], .error invalidSize)
      else do
        let (paramsize, rp) ← readBE 4 rp
        match ← bindValue paramformatcodes (paramOid paramformatcodes oids i) i paramsize rp with
        | .error error => some ([], .error error)
        | .ok (value, rest) => do
            let (parameters, outcome) ← bindValues paramformatcodes oids (i + 1) count rest
            some (⟨paramsize, rp.take (rp.length - rest.length), value⟩ :: parameters, outcome)

/-- The result format codes, which nothing is done with. -/
def readResultFormats (rp : List Byte) : Option (Outcome Unit) :=
  if rp.length < 2 then some (.error ⟨"22003", "Invalid result format code count"⟩)
  else do
    let (resultformatcodecount, rp) ← readBE 2 rp
    if rp.length < 2 * resultformatcodecount then
      some (.error ⟨"22003", "Invalid result format codes"⟩)
    else (readAll 2 resultformatcodecount rp).map fun _ => .ok ()

/-! ## Messages -/

/-- What the handlers know beside the packet: whether there is a cursor for a statement, the types of
the parameters of a statement that there is, and whether a name is that of a statement or a portal. -/
structure Server where
  maxquerysize : Nat
  maxbindcount : Nat
  hasCursor : Name → Bool
  oids : Name → Option (List Nat)
  known : Bool → Name → Bool

namespace Server

variable (server : Server)

/-- The name, the query and the types of a Parse. -/
def parse (reqpacket : List Byte) : Option (Outcome (Name × List Byte × List Nat)) := do
  let (stmtname, rp) ← readString reqpacket
  if !server.hasCursor stmtname then some (.error (syntaxError "Out of cursors"))
  else
    let (query, rp) ← readString rp
    let (paramcount, rp) ← readBE 2 rp
    if server.maxbindcount < paramcount then some (.error tooManyBinds)
    else
      let (paramtypes, _) ← readAll 4 paramcount rp
      if server.maxquerysize < query.length then some (.error (syntaxError "Query is too large"))
      else some (.ok (stmtname, query, paramtypes))

/-- The parameters that a Bind has bound, and how it ended. -/
def bind (reqpacket : List Byte) : Option (List Parameter × Outcome Unit) := do
  let (_, rp) ← readString reqpacket
  let (stmtname, rp) ← readString rp
  match server.oids stmtname with
  | none => some ([], .error ⟨"26000", "Invalid statement name"⟩)
  | some oids =>
      let (paramformatcodecount, rp) ← readBE 2 rp
      if server.maxbindcount < paramformatcodecount then some ([], .error tooManyBinds)
      else
        let (paramformatcodes, rp) ← readAll 2 paramformatcodecount rp
        let (paramvaluecount, rp) ← readBE 2 rp
        if server.maxbindcount < paramvaluecount then some ([], .error tooManyBinds)
        else if 1 < paramformatcodecount ∧ paramformatcodecount ≠ paramvaluecount then
          some ([], .error ⟨"22023", "Invalid parameter format code count"⟩)
        else
          let (parameters, outcome) ← bindValues paramformatcodes oids 0 paramvaluecount rp
          match outcome with
          | .error error => some (parameters, .error error)
          | .ok rp => (readResultFormats rp).map fun result => (parameters, result)

/-- The statement or the portal that a Describe or a Close is about. -/
def statementOrPortal (reqpacket : List Byte) : Option (Outcome (Bool × Name)) := do
  let (sorp, rp) ← Receiver.bytes 1 reqpacket
  let (name, _) ← readString rp
  let statement := sorp == [chr 'S']
  if server.known statement name then some (.ok (statement, name))
  else some (.error ⟨"26000", "Invalid statement/portal name"⟩)

def describe (reqpacket : List Byte) : Option (Outcome (Bool × Name)) :=
  server.statementOrPortal reqpacket

def close (reqpacket : List Byte) : Option (Outcome (Bool × Name)) :=
  server.statementOrPortal reqpacket

/-- The portal and the number of rows of an Execute. -/
def execute (reqpacket : List Byte) : Option (Outcome (Name × Nat)) := do
  let (portal, rp) ← readString reqpacket
  let (maxrows, _) ← readBE 4 rp
  if server.known false portal then some (.ok (portal, maxrows))
  else some (.error ⟨"26000", "Invalid portal name"⟩)

end Server

/-! ## What a packet declares -/

/-- What is behind the first NUL. -/
def behind (text : List Byte) : List Byte := text.drop ((contents text).length + 1)

/-- The number that the packet goes on with. -/
def numberAt (size : Nat) (rp : List Byte) : Nat := ByteOrder.big.read (rp.take size)

/-- So many numbers of the same size. -/
def numbersAt (size : Nat) : Nat → List Byte → List Nat
  | 0, _ => []
  | count + 1, rp => numberAt size rp :: numbersAt size count (rp.drop size)

/-- The sizes and the bytes of so many parameters, each one behind the bytes that the size of the one
before declares. -/
def declared : Nat → List Byte → List (Nat × List Byte)
  | 0, _ => []
  | count + 1, rp =>
      if rp.length < 4 then []
      else
        let paramsize := numberAt 4 rp
        let own := if paramsize = nullSize then [] else (rp.drop 4).take paramsize
        (paramsize, own) :: declared count (rp.drop (4 + own.length))

/-- The format codes of a Bind, where they begin. -/
def formatCodesAt (rp : List Byte) : List Nat := numbersAt 2 (numberAt 2 rp) (rp.drop 2)

/-- What is behind them. -/
def behindFormatCodes (rp : List Byte) : List Byte := rp.drop (2 + 2 * numberAt 2 rp)

/-- The parameters that a Bind declares. -/
def declaredParameters (reqpacket : List Byte) : List (Nat × List Byte) :=
  let rp := behindFormatCodes (behind (behind reqpacket))
  declared (numberAt 2 rp) (rp.drop 2)

def Parameter.own (parameter : Parameter) : Nat × List Byte := (parameter.paramsize, parameter.bytes)

namespace BinaryType

/-- How many bytes a value takes. -/
def size (paramsize : Nat) (rp : List Byte) : BinaryType → Nat
  | bool => 1
  | int size | float size => size
  | char | text | bytea => paramsize
  | numeric => 8 + 2 * (Numeric.readHeader rp).ndigits

/-- The value is not refused. -/
def Takes (paramsize : Nat) (rp : List Byte) : BinaryType → Prop
  | bool => 1 ≤ paramsize
  | int size | float size => size ≤ paramsize
  | char | text | bytea => True
  | numeric => ¬Numeric.Refused paramsize rp ∧
      ¬((Numeric.readHeader rp).Finite ∧ Numeric.WholeGroupTooLarge rp)

end BinaryType

/-- The type whose cases a parameter goes to, if it is not bound as text. -/
def valueType (paramformatcodes : List Nat) (oid : Option Nat) (i : Nat) : Option BinaryType :=
  if formatCode paramformatcodes i = 0 then some .char else oid.bind binaryType

/-- Every parameter that is reached and not refused has the size that its type takes. -/
def SizesFit (paramformatcodes oids : List Nat) : Nat → Nat → List Byte → Prop
  | _, 0, _ => True
  | i, count + 1, packet =>
      let paramsize := numberAt 4 packet
      let rp := packet.drop 4
      4 ≤ packet.length →
        if paramsize = nullSize then SizesFit paramformatcodes oids (i + 1) count rp
        else
          ∀ type, valueType paramformatcodes (paramOid paramformatcodes oids i) i = some type →
            paramsize ≤ rp.length → type.Takes paramsize rp →
              type.size paramsize rp = paramsize ∧
                SizesFit paramformatcodes oids (i + 1) count (rp.drop paramsize)

inductive Message where
  | parse
  | bind
  | describe
  | execute
  | close
  deriving DecidableEq, Repr

namespace Server

variable (server : Server)

/-- The handler of a message, and the parameters that it binds. -/
def handle (reqpacket : List Byte) : Message → Option (List Parameter)
  | .parse => (server.parse reqpacket).map fun _ => []
  | .bind => (server.bind reqpacket).map Prod.fst
  | .describe => (server.describe reqpacket).map fun _ => []
  | .execute => (server.execute reqpacket).map fun _ => []
  | .close => (server.close reqpacket).map fun _ => []

/-- The handler keeps to the packet, and each parameter that it binds, up to the first one that it
refuses, is bound from the bytes that are declared as its own. -/
def StaysInPacket (message : Message) (reqpacket : List Byte) : Prop :=
  ∃ parameters, server.handle reqpacket message = some parameters ∧
    (message = .bind → parameters.map Parameter.own <+: declaredParameters reqpacket)

/-- The query of a Parse is terminated, and all of its types are there. -/
def ParseFits (rp : List Byte) : Prop :=
  0 ∈ rp ∧ 2 ≤ (behind rp).length ∧
    (numberAt 2 (behind rp) ≤ server.maxbindcount →
      4 * numberAt 2 (behind rp) ≤ (behind rp).length - 2)

/-- The format codes of a Bind and the number of its parameters are there, and the parameters have the
sizes of their types. -/
def BindFits (oids : List Nat) (rp : List Byte) : Prop :=
  let codes := formatCodesAt rp
  let values := behindFormatCodes rp
  2 ≤ rp.length ∧
    (codes.length ≤ server.maxbindcount →
      2 * codes.length ≤ rp.length - 2 ∧ 2 ≤ values.length ∧
        (numberAt 2 values ≤ server.maxbindcount →
          codes.length ≤ 1 ∨ codes.length = numberAt 2 values →
            SizesFit codes oids 0 (numberAt 2 values) (values.drop 2)))

/-- The packet has all that its handler reads without looking for the end of it. -/
def Fits (reqpacket : List Byte) : Message → Prop
  | .parse => 0 ∈ reqpacket ∧
      (server.hasCursor (contents reqpacket) = true → server.ParseFits (behind reqpacket))
  | .bind => 0 ∈ reqpacket ∧ 0 ∈ behind reqpacket ∧
      ∀ oids, server.oids (contents (behind reqpacket)) = some oids →
        server.BindFits oids (behind (behind reqpacket))
  | .describe | .close => 0 ∈ reqpacket.tail
  | .execute => 0 ∈ reqpacket ∧ 4 ≤ (behind reqpacket).length

end Server

/-! ## Reading -/

variable {size count : Nat} {rp : List Byte}

theorem readString_eq (text : List Byte) :
    readString text = if 0 ∈ text then some (contents text, behind text) else none := by
  induction text with
  | nil => rfl
  | cons byte text ih =>
      rw [readString, behind, contents_cons]
      by_cases nul : byte = 0
      · simp [nul]
      · have there : (0 ∈ byte :: text) ↔ 0 ∈ text := by simp [Ne.symm nul]
        rw [if_neg nul, if_neg nul, ih, if_congr there rfl rfl]
        split <;> simp [behind]

theorem readBE_eq (size : Nat) (rp : List Byte) :
    readBE size rp = if size ≤ rp.length then some (numberAt size rp, rp.drop size) else none := by
  rw [readBE, Receiver.bytes]
  split <;> rfl

theorem readAll_eq (size count : Nat) (rp : List Byte) :
    readAll size count rp =
      if size * count ≤ rp.length then some (numbersAt size count rp, rp.drop (size * count))
      else none := by
  induction count generalizing rp with
  | zero => simp [readAll, numbersAt]
  | succ count ih =>
      rw [readAll, readBE_eq, Nat.mul_succ, numbersAt]
      by_cases first : size ≤ rp.length
      · rw [if_pos first, Option.bind_eq_bind, Option.bind_some]
        dsimp only
        rw [ih, List.length_drop, List.drop_drop]
        have there : size * count ≤ rp.length - size ↔ size * count + size ≤ rp.length := by omega
        rw [if_congr there rfl rfl, Nat.add_comm size]
        split <;> rfl
      · have short : ¬size * count + size ≤ rp.length := by omega
        rw [if_neg first, if_neg short]
        rfl

theorem length_numbersAt (size count : Nat) (rp : List Byte) :
    (numbersAt size count rp).length = count := by
  induction count generalizing rp with
  | zero => rfl
  | succ count ih => rw [numbersAt, List.length_cons, ih]

/-! ## Parameters -/

section Parameters

variable {paramsize : Nat}

theorem bindFixed_eq (value : Nat → BindValue) (fits : paramsize ≤ rp.length) :
    bindFixed size value paramsize rp =
      if size ≤ paramsize then some (.ok (value (numberAt size rp), rp.drop size))
      else some (.error invalidSize) := by
  rw [bindFixed, readBE_eq]
  by_cases takes : size ≤ paramsize
  · have long : ¬(rp.length < size ∨ paramsize < size) := by omega
    have there : size ≤ rp.length := takes.trans fits
    rw [if_neg long, if_pos takes, if_pos there]
    rfl
  · rw [if_pos (Or.inr (Nat.not_le.mp takes)), if_neg takes]

theorem bindBytes_eq (value : List Byte → BindValue) (fits : paramsize ≤ rp.length) :
    bindBytes value paramsize rp = some (.ok (value (rp.take paramsize), rp.drop paramsize)) := by
  rw [bindBytes, Receiver.bytes, if_pos fits]
  rfl

/-- What the handler does with a parameter: it binds it and moves over as many bytes as its type takes,
or it refuses it. -/
inductive Binds (type : BinaryType) (paramsize : Nat) (rp : List Byte) :
    Option (Outcome (BindValue × List Byte)) → Prop where
  | bound (takes : type.Takes paramsize rp) (inside : type.size paramsize rp ≤ paramsize)
      (value : BindValue) :
      Binds type paramsize rp (some (.ok (value, rp.drop (type.size paramsize rp))))
  | refused (refuses : ¬type.Takes paramsize rp) (error : ErrorResponse) :
      Binds type paramsize rp (some (.error error))

theorem binds_bindFixed (type : BinaryType) (value : Nat → BindValue)
    (fits : paramsize ≤ rp.length) (takes : type.Takes paramsize rp ↔ size ≤ paramsize)
    (same : type.size paramsize rp = size) :
    Binds type paramsize rp (bindFixed size value paramsize rp) := by
  rw [bindFixed_eq value fits, ← same]
  split
  case isTrue inside => exact .bound (takes.mpr (same ▸ inside)) inside _
  case isFalse outside => exact .refused (fun taken => outside (same ▸ takes.mp taken)) _

theorem binds_bindBinaryType (fits : paramsize ≤ rp.length) (type : BinaryType) :
    Binds type paramsize rp (bindBinaryType paramsize rp type) := by
  cases type with
  | bool =>
      rw [bindBinaryType]
      exact binds_bindFixed .bool _ fits Iff.rfl rfl
  | int size =>
      rw [bindBinaryType]
      exact binds_bindFixed (.int size) _ fits Iff.rfl rfl
  | float size =>
      rw [bindBinaryType]
      exact binds_bindFixed (.float size) _ fits Iff.rfl rfl
  | char =>
      rw [bindBinaryType, bindTextParameter, bindBytes_eq _ fits]
      exact @Binds.bound .char paramsize rp trivial le_rfl _
  | text =>
      rw [bindBinaryType, bindBytes_eq _ fits]
      exact @Binds.bound .text paramsize rp trivial le_rfl _
  | bytea =>
      rw [bindBinaryType, bindBytes_eq _ fits]
      exact @Binds.bound .bytea paramsize rp trivial le_rfl _
  | numeric =>
      rw [bindBinaryType, Numeric.bindNumericWithin_eq, Option.map_some]
      cases bound : Numeric.bindNumeric paramsize rp with
      | error message =>
          refine .refused (fun taken => ?_) _
          obtain ⟨text, rest, other⟩ := Numeric.bindNumeric_ok_iff.mpr taken
          rw [bound] at other
          cases other
      | ok found =>
          obtain ⟨text, rest⟩ := found
          obtain ⟨rfl, inside, _⟩ := Numeric.bindNumeric_ok bound
          have takes := Numeric.bindNumeric_ok_iff.mp ⟨_, _, bound⟩
          exact @Binds.bound .numeric paramsize rp takes inside _

/-- A parameter that is not null and in the packet goes to the cases of its type, or is refused for
having none. -/
theorem bindValue_eq {paramformatcodes : List Nat} {oid : Option Nat} {i : Nat}
    (valued : paramsize ≠ nullSize) (fits : paramsize ≤ rp.length) :
    (∀ type, valueType paramformatcodes oid i = some type →
        bindValue paramformatcodes oid i paramsize rp = bindBinaryType paramsize rp type) ∧
      (valueType paramformatcodes oid i = none →
        ∃ error, bindValue paramformatcodes oid i paramsize rp = some (.error error)) := by
  rw [bindValue.eq_def, if_neg valued, if_neg (Nat.not_lt.mpr fits), valueType]
  by_cases text : formatCode paramformatcodes i = 0
  · rw [if_pos text, if_pos text]
    refine ⟨fun type same => ?_, fun absent => nomatch absent⟩
    cases same
    rfl
  · rw [if_neg text, if_neg text]
    cases oid with
    | none => exact ⟨fun type same => (nomatch same), fun _ => ⟨_, rfl⟩⟩
    | some oid =>
        rw [Option.bind_some]
        dsimp only
        rw [bindBinaryParameter]
        cases binaryType oid with
        | none => exact ⟨fun type same => (nomatch same), fun _ => ⟨_, rfl⟩⟩
        | some type =>
            refine ⟨fun other same => ?_, fun absent => nomatch absent⟩
            cases same
            rfl

/-- A parameter that moves the pointer over so many bytes is bound from its own exactly if they are as
many as it has. -/
theorem own_cons_prefix_iff {size : Nat} (fits : paramsize ≤ rp.length) (inside : size ≤ paramsize)
    {value : BindValue} {parameters others : List (Nat × List Byte)} :
    Parameter.own ⟨paramsize, rp.take (rp.length - (rp.drop size).length), value⟩ :: parameters <+:
        (paramsize, rp.take paramsize) :: others ↔
      size = paramsize ∧ parameters <+: others := by
  rw [List.cons_prefix_cons, List.length_drop, Nat.sub_sub_self (inside.trans fits), Parameter.own,
    Prod.mk.injEq, and_iff_right rfl]
  refine and_congr_left' ⟨fun same => ?_, fun same => by rw [same]⟩
  have lengths := congrArg List.length same
  rwa [List.length_take, List.length_take, Nat.min_eq_left fits,
    Nat.min_eq_left (inside.trans fits)] at lengths

end Parameters

/-- The loop keeps to the packet, and binds each parameter from its own bytes exactly if the sizes fit
the types. -/
theorem bindValues_own (paramformatcodes oids : List Nat) (i count : Nat) (rp : List Byte) :
    ∃ parameters outcome,
      bindValues paramformatcodes oids i count rp = some (parameters, outcome) ∧
        (parameters.map Parameter.own <+: declared count rp ↔
          SizesFit paramformatcodes oids i count rp) := by
  induction count generalizing i rp with
  | zero => exact ⟨[], .ok rp, rfl, iff_of_true List.prefix_rfl trivial⟩
  | succ count ih =>
      rw [bindValues, declared, SizesFit]
      by_cases short : rp.length < 4
      · rw [if_pos short, if_pos short]
        exact ⟨[], _, rfl, iff_of_true List.prefix_rfl fun long => absurd short (Nat.not_lt.mpr long)⟩
      · rw [if_neg short, if_neg short, readBE_eq, if_pos (Nat.not_lt.mp short),
          forall_prop_of_true (Nat.not_lt.mp short)]
        simp only [Option.bind_eq_bind, Option.bind_some, ← List.drop_drop]
        generalize numberAt 4 rp = paramsize
        generalize rp.drop 4 = rest
        by_cases isNull : paramsize = nullSize
        · obtain ⟨parameters, outcome, bound, own⟩ := ih (i + 1) rest
          rw [bindValue.eq_def, if_pos isNull, if_pos isNull, if_pos isNull]
          simp only [Option.bind_some, bound, List.length_nil, List.drop_zero]
          refine ⟨_, _, rfl, ?_⟩
          rw [List.map_cons, List.cons_prefix_cons, own]
          simp [Parameter.own]
        · rw [if_neg isNull, if_neg isNull]
          by_cases fits : paramsize ≤ rest.length
          · obtain ⟨typed, untyped⟩ :=
              @bindValue_eq rest paramsize paramformatcodes (paramOid paramformatcodes oids i) i
                isNull fits
            cases type : valueType paramformatcodes (paramOid paramformatcodes oids i) i with
            | none =>
                obtain ⟨error, refused⟩ := untyped type
                rw [refused]
                exact ⟨[], _, rfl, iff_of_true List.nil_prefix fun _ absent => (nomatch absent)⟩
            | some type' =>
                have binds := binds_bindBinaryType fits type'
                rw [typed type' type]
                generalize bindBinaryType paramsize rest type' = bound at binds
                simp only [Option.some.injEq, forall_eq', fits, true_implies]
                cases binds with
                | refused refuses error =>
                    exact ⟨[], _, rfl, iff_of_true List.nil_prefix fun takes => absurd takes refuses⟩
                | bound takes inside value =>
                    obtain ⟨parameters, outcome, bound, own⟩ :=
                      ih (i + 1) (rest.drop (type'.size paramsize rest))
                    simp only [Option.bind_some, bound]
                    refine ⟨_, _, rfl, ?_⟩
                    rw [List.map_cons, own_cons_prefix_iff fits inside, forall_prop_of_true takes,
                      List.length_take, Nat.min_eq_left fits]
                    refine and_congr_right fun exact => ?_
                    rw [← exact, own]
          · rw [bindValue.eq_def, if_neg isNull, if_pos (Nat.not_le.mp fits)]
            exact ⟨[], _, rfl, iff_of_true List.nil_prefix fun _ _ there => absurd there fits⟩

section Handled

variable {α β : Type} {condition : Prop} [Decidable condition]

/-- What is read has to be there. -/
theorem isSome_bind_ite {value : α} {next : α → Option β} :
    ((if condition then some value else none).bind next).isSome = true ↔
      condition ∧ (next value).isSome = true := by
  split <;> simp_all

/-- What is read after a check has to be there only if the check is passed. -/
theorem isSome_ite_some {refusal : α} {next : Option α} :
    (if condition then some refusal else next).isSome = true ↔
      (¬condition → next.isSome = true) := by
  split <;> simp_all

/-- The handler keeps to the packet, and what it gives has this property. -/
def Gives (property : α → Prop) (handled : Option α) : Prop :=
  ∃ value, handled = some value ∧ property value

variable {property : β → Prop}

theorem gives_bind_ite {value : α} {next : α → Option β} :
    Gives property ((if condition then some value else none).bind next) ↔
      condition ∧ Gives property (next value) := by
  split
  case isTrue holds => rw [Option.bind_some, and_iff_right holds]
  case isFalse fails =>
    exact iff_of_false (fun ⟨_, none_there, _⟩ => nomatch none_there) fun both => fails both.1

theorem gives_some {value : β} : Gives property (some value) ↔ property value := by
  constructor
  · rintro ⟨_, same, holds⟩
    cases same
    exact holds
  · exact fun holds => ⟨value, rfl, holds⟩

theorem gives_ite_some {refusal : β} {next : Option β} (holds : property refusal) :
    Gives property (if condition then some refusal else next) ↔
      (¬condition → Gives property next) := by
  split
  case isTrue refused => exact iff_of_true (gives_some.mpr holds) fun passed => absurd refused passed
  case isFalse passed => rw [forall_prop_of_true passed]

end Handled

/-- The result format codes are looked for before they are read. -/
theorem isSome_readResultFormats (rp : List Byte) : (readResultFormats rp).isSome = true := by
  rw [readResultFormats, isSome_ite_some]
  intro counted
  rw [Nat.not_lt] at counted
  rw [Option.bind_eq_bind, readBE_eq, isSome_bind_ite, and_iff_right counted, isSome_ite_some,
    Nat.not_lt]
  intro there
  rw [Option.isSome_map, readAll_eq, if_pos there]
  rfl

/-! ## Messages -/

namespace Server

variable (server : Server)

theorem isSome_parse (reqpacket : List Byte) :
    (server.parse reqpacket).isSome = true ↔ server.Fits reqpacket .parse := by
  simp only [parse, Fits, ParseFits, readString_eq, readBE_eq, readAll_eq, Option.bind_eq_bind,
    isSome_bind_ite, isSome_ite_some, List.length_drop, Bool.not_eq_true', Bool.not_eq_false,
    Nat.not_lt, Option.isSome_some, implies_true, and_true]

theorem isSome_statementOrPortal (reqpacket : List Byte) :
    (server.statementOrPortal reqpacket).isSome = true ↔ 0 ∈ reqpacket.tail := by
  simp only [statementOrPortal, Receiver.bytes, readString_eq, Option.bind_eq_bind, isSome_bind_ite,
    isSome_ite_some, List.drop_one, Option.isSome_some, implies_true, and_true]
  rw [and_iff_right_iff_imp]
  intro named
  cases reqpacket with
  | nil => exact absurd named List.not_mem_nil
  | cons sorp rp => exact Nat.le_add_left 1 rp.length

theorem isSome_execute (reqpacket : List Byte) :
    (server.execute reqpacket).isSome = true ↔ server.Fits reqpacket .execute := by
  simp only [execute, Fits, readString_eq, readBE_eq, Option.bind_eq_bind, isSome_bind_ite,
    isSome_ite_some, Option.isSome_some, implies_true, and_true]

/-- What a Bind binds is declared. -/
def Own (reqpacket : List Byte) (bound : List Parameter × Outcome Unit) : Prop :=
  bound.1.map Parameter.own <+: declaredParameters reqpacket

theorem own_nil (reqpacket : List Byte) (error : ErrorResponse) :
    Own reqpacket ([], .error error) := List.nil_prefix

omit server in
/-- The loop over the parameters, and the result formats behind them. -/
theorem gives_bindValues (reqpacket : List Byte) (codes oids : List Nat) {rp : List Byte}
    (begins : declaredParameters reqpacket = declared (numberAt 2 rp) (rp.drop 2)) :
    Gives (Own reqpacket) ((bindValues codes oids 0 (numberAt 2 rp) (rp.drop 2)).bind fun bound =>
        match bound.2 with
        | .error error => some (bound.1, .error error)
        | .ok rest => (readResultFormats rest).map fun result => (bound.1, result)) ↔
      SizesFit codes oids 0 (numberAt 2 rp) (rp.drop 2) := by
  obtain ⟨parameters, outcome, bound, own⟩ :=
    bindValues_own codes oids 0 (numberAt 2 rp) (rp.drop 2)
  rw [bound, ← own, Option.bind_some, ← begins]
  cases outcome with
  | error error => exact gives_some
  | ok rest =>
      obtain ⟨result, read⟩ := Option.isSome_iff_exists.mp (isSome_readResultFormats rest)
      dsimp only
      rw [read, Option.map_some]
      exact gives_some

theorem gives_bind (reqpacket : List Byte) :
    Gives (Own reqpacket) (server.bind reqpacket) ↔ server.Fits reqpacket .bind := by
  simp only [bind, Fits, readString_eq, Option.bind_eq_bind, gives_bind_ite]
  refine and_congr_right fun _ => and_congr_right fun _ => ?_
  cases server.oids (contents (behind reqpacket)) with
  | none => exact iff_of_true (gives_some.mpr (own_nil _ _)) fun _ absent => (nomatch absent)
  | some oids =>
      simp only [Option.some.injEq, forall_eq', BindFits, readBE_eq, readAll_eq, gives_bind_ite,
        gives_ite_some (own_nil reqpacket _), formatCodesAt, length_numbersAt]
      generalize packet_eq : behind (behind reqpacket) = packet
      have values_eq : (packet.drop 2).drop (2 * numberAt 2 packet) = behindFormatCodes packet := by
        rw [List.drop_drop, behindFormatCodes]
      have counts {codecount valuecount : Nat} :
          ¬(1 < codecount ∧ codecount ≠ valuecount) ↔ codecount ≤ 1 ∨ codecount = valuecount := by
        omega
      have begins : declaredParameters reqpacket =
          declared (numberAt 2 (behindFormatCodes packet)) ((behindFormatCodes packet).drop 2) := by
        rw [declaredParameters, packet_eq]
      simp only [values_eq, Nat.not_lt, List.length_drop, counts,
        gives_bindValues reqpacket _ _ begins]

/-- A handler stays in its packet exactly if the packet has all that it reads without looking for the
end, and a Bind has parameters of the sizes of their types. -/
theorem staysInPacket_iff (message : Message) (reqpacket : List Byte) :
    server.StaysInPacket message reqpacket ↔ server.Fits reqpacket message := by
  have silent {Value : Type} (other : message ≠ .bind) {handled : Option Value}
      (same : server.handle reqpacket message = handled.map fun _ => []) :
      server.StaysInPacket message reqpacket ↔ handled.isSome = true := by
    rw [StaysInPacket, same]
    cases handled <;> simp [other]
  cases message with
  | parse => rw [silent (by decide) rfl, isSome_parse]
  | describe => rw [silent (by decide) rfl, describe, isSome_statementOrPortal, Fits]
  | close => rw [silent (by decide) rfl, close, isSome_statementOrPortal, Fits]
  | execute => rw [silent (by decide) rfl, isSome_execute]
  | bind =>
      rw [← gives_bind, StaysInPacket, handle]
      cases server.bind reqpacket with
      | none => simp [Gives]
      | some bound => simp [Gives, Own]

/-- A server with one statement that has two parameters of type int4. -/
def twoParameters : Server where
  maxquerysize := 65536
  maxbindcount := 256
  hasCursor := fun _ => true
  oids := fun _ => some [23, 23]
  known := fun _ _ => true

/-- A Bind of a binary int4 that is sent with eight bytes, and of an int4 with the value 7.  The second
one is bound from the last four bytes of the first, which are taken for its size. -/
def longParameter : List Byte :=
  [0, 0] ++ [0, 1, 0, 1] ++ [0, 2] ++ [0, 0, 0, 8, 0, 0, 0, 1, 0, 0, 0, 4] ++
    [0, 0, 0, 4, 0, 0, 0, 7] ++ [0, 0]

theorem not_staysInPacket_longParameter :
    ¬twoParameters.StaysInPacket .bind longParameter := by
  rintro ⟨parameters, bound, own⟩
  have same : twoParameters.handle longParameter .bind = some
      [⟨8, [0, 0, 0, 1], .integer 1⟩, ⟨4, [0, 0, 0, 4], .integer 4⟩] := by decide
  rw [same] at bound
  cases bound
  revert own
  decide

end Server

end SqlRelay.Postgresql.Messages
