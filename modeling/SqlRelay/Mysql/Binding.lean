import SqlRelay.Mysql.Decoding

/-!
# What an execution binds

The types of the parameters are kept by the id of a cursor, and so is how many there are.  The types
stay when another statement is prepared with the cursor, and a COM_STMT_RESET forgets the number.
-/

namespace SqlRelay.Mysql

open SqlRelay.Foundation SqlRelay.Cursors

/-- The types in a packet. -/
def typesIn (bytes : List Byte) (i : Nat) : Nat := littleEndian ((bytes.drop (2 * i)).take 2)

/-- What comes behind the bitmap of a COM_STMT_EXECUTE: the types, if there are new ones, and the
values. -/
def decodeTypes (packet : Buffer) (pcount : Nat) : Option (Option (Nat → Nat) × List Byte) :=
  match packet.bytes.drop (10 + (pcount + 7) / 8) with
  | [] => none
  | flag :: rest =>
      if flag = 1 then
        (splitExactly (2 * pcount) rest).map fun split => (some (typesIn split.1), split.2)
      else some (none, rest)

/-- The types of the parameters: the new ones, or those that were sent before. -/
def typesFor (packet : Buffer) (pcount : Nat) (sent : Option (Nat → Nat)) : Option (Nat → Nat) :=
  match decodeTypes packet pcount with
  | none => none
  | some (new, _) => new.or sent

/-- The values that a COM_STMT_EXECUTE encodes for a statement with so many parameters. -/
def decodePacket (packet : Buffer) (pcount : Nat) (sent : Option (Nat → Nat)) :
    Option (List BindVar) :=
  if packet.bytes.length < 10 then none
  else if pcount = 0 then some []
  else
    match decodeTypes packet pcount with
    | none => none
    | some (new, values) =>
        match new.or sent with
        | none => none
        | some types => decodeParameters (isNull packet 10) types pcount 0 values

/-- A session, with what the client knows about each statement: how many parameters it was prepared
with, the types that were sent for it last, and whether it has been reset. -/
structure Conversation where
  watched : Watched
  paramcounts : Nat → Nat
  senttypes : Nat → Option (Nat → Nat)
  resets : Nat → Bool

namespace Conversation

def step (config : Config) (conversation : Conversation) (request : Request) : Conversation :=
  let after := { conversation with watched := conversation.watched.step config request }
  match request with
  | .stmtExecute packet _ =>
      let stmtid := Server.stmtidOf packet
      match decodeTypes packet (conversation.paramcounts stmtid) with
      | some (some types, _) =>
          { after with senttypes := Function.update conversation.senttypes stmtid (some types) }
      | _ => after
  | .stmtReset stmtid =>
      { after with resets := Function.update conversation.resets stmtid true }
  | _ =>
      match (conversation.watched.response config request).reply with
      | .prepareOk stmtid pcount =>
          { after with
            paramcounts := Function.update conversation.paramcounts stmtid pcount
            senttypes := Function.update conversation.senttypes stmtid none
            resets := Function.update conversation.resets stmtid false }
      | _ => after

/-- What an execution of a statement that is open does, unless it is answered with an error before: it
reads nothing behind the packet, and binds the values that the packet encodes. -/
def Right (config : Config) (conversation : Conversation) : Request → Prop
  | .stmtExecute packet executed =>
      let stmtid := Server.stmtidOf packet
      conversation.watched.opened stmtid = true → ∀ execution,
        (conversation.watched.response config (.stmtExecute packet executed)).executed =
            some execution →
          execution.inside = true ∧ ∃ values,
            decodePacket packet (conversation.paramcounts stmtid)
              (conversation.senttypes stmtid) = some values ∧
            execution.inputbinds.map BindVar.value = values.map BindVar.value
  | _ => True

/-- What has to be so before an execution.  The statement has not been reset, unless it has no
parameters; the packet encodes a value for each parameter, with types that are sent now or were sent
for the statement before; the parts of a date fit; and no parameter that is not null has a type with a
flag, unless it is read as a string. -/
structure Served (conversation : Conversation) (packet : Buffer) : Prop where
  notReset : conversation.resets (Server.stmtidOf packet) = false ∨
    conversation.paramcounts (Server.stmtidOf packet) = 0
  encoded : ∃ values, decodePacket packet (conversation.paramcounts (Server.stmtidOf packet))
      (conversation.senttypes (Server.stmtidOf packet)) = some values ∧
    ∀ value ∈ values, value.Fits
  plain : ∀ types, typesFor packet (conversation.paramcounts (Server.stmtidOf packet))
      (conversation.senttypes (Server.stmtidOf packet)) = some types →
    ∀ i, i < conversation.paramcounts (Server.stmtidOf packet) → isNull packet 10 i = false →
      Plain (types i)

/-- Requests are proper, a COM_STMT_RESET as well names a statement that is open or no cursor, and an
execution of a statement that is open is as it has to be. -/
structure Orderly (config : Config) (conversation : Conversation) (request : Request) : Prop where
  proper : conversation.watched.Proper config request
  reset : ∀ stmtid, request = .stmtReset stmtid →
    conversation.watched.opened stmtid = true ∨
      conversation.watched.server.cursorOf stmtid = none
  served : ∀ packet executed, request = .stmtExecute packet executed →
    conversation.watched.opened (Server.stmtidOf packet) = true → conversation.Served packet

def start (config : Config) (count : Nat) (querybuffers : Nat → List Byte) (pcounts : Nat → Nat)
    (ptypes : Nat → Nat → Nat) : Conversation :=
  ⟨Watched.start config count querybuffers pcounts ptypes, fun _ => 0, fun _ => none,
    fun _ => false⟩

/-- What the module has by the id of a statement that is open. -/
structure Remembers (config : Config) (conversation : Conversation) (stmtid : Nat) : Prop where
  pcount : conversation.watched.server.pcounts stmtid =
    if conversation.resets stmtid then 0 else conversation.paramcounts stmtid
  few : conversation.paramcounts stmtid ≤ config.maxbindcount
  types : ∀ types, conversation.senttypes stmtid = some types →
    ∀ i, i < conversation.paramcounts stmtid →
      conversation.watched.server.ptypes stmtid i = types i

structure Sound (config : Config) (conversation : Conversation) : Prop where
  sound : conversation.watched.Sound config
  remembers : ∀ stmtid, conversation.watched.opened stmtid = true →
    conversation.Remembers config stmtid

theorem sound_start (config : Config) (count : Nat) (querybuffers : Nat → List Byte)
    (pcounts : Nat → Nat) (ptypes : Nat → Nat → Nat) :
    (start config count querybuffers pcounts ptypes).Sound config where
  sound := Watched.sound_start config count querybuffers pcounts ptypes
  remembers stmtid isOpen := by cases isOpen

/-! ## An execution -/

variable {config : Config} {conversation : Conversation}

theorem decodePacket_length {packet : Buffer} {pcount : Nat} {sent : Option (Nat → Nat)}
    {values : List BindVar} (decoded : decodePacket packet pcount sent = some values) :
    10 ≤ packet.bytes.length := by
  simp only [decodePacket] at decoded
  split at decoded
  · cases decoded
  · next enough => exact Nat.not_lt.mp enough

theorem decodeParameters_congr {null : Nat → Bool} {first second : Nat → Nat} {count i : Nat}
    {bytes : List Byte}
    (agree : ∀ index, i ≤ index → index < i + count → first index = second index) :
    decodeParameters null first count i bytes = decodeParameters null second count i bytes := by
  induction count generalizing i bytes with
  | zero => rfl
  | succ count ih =>
      have here := agree i (Nat.le_refl _) (by omega)
      have others : ∀ bytes, decodeParameters null first count (i + 1) bytes =
          decodeParameters null second count (i + 1) bytes := by
        intro bytes
        apply ih
        intro index low high
        exact agree index (by omega) (by omega)
      simp only [decodeParameters, here, others]

/-- The parameters are bound as they are decoded where the types in the row of the cursor are the ones
that they were encoded with. -/
theorem bindParameters_of_types {packet : Buffer} {pcount : Nat} {row types : Nat → Nat}
    {reader : Reader} {rest : List Byte} {values : List BindVar} (few : pcount ≤ config.maxbindcount)
    (here : Reader.At packet reader rest) (inside : reader.inside = true)
    (agree : ∀ i, i < pcount → row i = types i)
    (plain : ∀ i, i < pcount → isNull packet 10 i = false → Plain (types i))
    (bitmap : 10 + (pcount + 7) / 8 < packet.bytes.length)
    (parameters : decodeParameters (isNull packet 10) types pcount 0 rest = some values)
    (fits : ∀ value ∈ values, value.Fits) :
    ∃ binds next, bindParameters packet row 10 (min pcount config.maxbindcount) 0 reader =
        some (binds, next) ∧
      binds.map BindVar.value = values.map BindVar.value ∧ next.inside = true := by
  have same : decodeParameters (isNull packet 10) row pcount 0 rest = some values := by
    rw [← parameters]
    apply decodeParameters_congr
    intro index _ below
    exact agree index (by omega)
  rw [Nat.min_eq_left few]
  obtain ⟨binds, next, read, isValues, kept⟩ := bindParameters_eq here
    (fun index _ below => by omega)
    (fun index _ below notNull => by
      rw [agree index (by omega)]
      exact plain index (by omega) notNull) same fits
  exact ⟨binds, next, read, isValues, kept.trans inside⟩

/-- Where the packet encodes the parameters, the types that are used are the ones that they were
encoded with. -/
theorem readParameters_eq {ptypes : Nat → Nat → Nat} {packet : Buffer} {cursor pcount : Nat}
    {sent : Option (Nat → Nat)} {values : List BindVar} (some_ : pcount ≠ 0)
    (few : pcount ≤ config.maxbindcount) (decoded : decodePacket packet pcount sent = some values)
    (fits : ∀ value ∈ values, value.Fits)
    (plain : ∀ types, typesFor packet pcount sent = some types →
      ∀ i, i < pcount → isNull packet 10 i = false → Plain (types i))
    (kept : ∀ types, sent = some types → ∀ i, i < pcount → ptypes cursor i = types i) :
    ∃ after binds next,
      Server.readParameters config ptypes packet cursor pcount ⟨10, true⟩ =
          (after, some (binds, next)) ∧
        binds.map BindVar.value = values.map BindVar.value ∧ next.inside = true ∧
        (∀ other, other ≠ cursor → after other = ptypes other) ∧
        ∀ types, typesFor packet pcount sent = some types → ∀ i, i < pcount →
          after cursor i = types i := by
  have atLeast := decodePacket_length decoded
  simp only [decodePacket, if_neg (Nat.not_lt.mpr atLeast), if_neg some_] at decoded
  cases behind : packet.bytes.drop (10 + (pcount + 7) / 8) with
  | nil => simp [decodeTypes, behind] at decoded
  | cons flag rest =>
      have bitmap : 10 + (pcount + 7) / 8 < packet.bytes.length := by
        have length := congrArg List.length behind
        simp only [List.length_drop, List.length_cons] at length
        omega
      have atFlag : Reader.At packet ((⟨10, true⟩ : Reader).advance ((pcount + 7) / 8))
          (flag :: rest) := ⟨Nat.le_of_lt bitmap, behind⟩
      have atTypes := atFlag.advance_cons
      simp only [Server.readParameters, atFlag.read_cons, littleEndian_singleton]
      by_cases isNew : flag = 1
      · cases split : splitExactly (2 * pcount) rest with
        | none => simp [decodeTypes, behind, isNew, split] at decoded
        | some parts =>
            obtain ⟨bytes, last⟩ := parts
            have header : decodeTypes packet pcount = some (some (typesIn bytes), last) := by
              simp [decodeTypes, behind, isNew, split]
            simp only [header, Option.some_or] at decoded
            have isFor : typesFor packet pcount sent = some (typesIn bytes) := by
              simp [typesFor, header]
            obtain ⟨read, reads⟩ := read_eq atTypes split
            have row : ∀ i, i < pcount →
                Server.storeTypes ptypes cursor pcount bytes cursor i = typesIn bytes i := by
              intro i below
              simp [Server.storeTypes, below, typesIn]
            obtain ⟨binds, next, isBound, isValues, inside⟩ :=
              bindParameters_of_types few reads.here reads.inside row (plain _ isFor) bitmap decoded fits
            have one : flag.toNat = 1 := by
              rw [isNew]
              rfl
            simp only [one, if_true, read, isBound]
            refine ⟨_, binds, next, rfl, isValues, inside, ?_, ?_⟩
            · intro other different
              exact Function.update_of_ne different ..
            · intro types same i below
              rw [isFor] at same
              cases same
              exact row i below
      · have header : decodeTypes packet pcount = some (none, rest) := by
          simp [decodeTypes, behind, isNew]
        simp only [header, Option.none_or] at decoded
        cases before : sent with
        | none => simp [before] at decoded
        | some types =>
            simp only [before] at decoded
            have isFor : typesFor packet pcount sent = some types := by
              simp [typesFor, header, before]
            obtain ⟨binds, next, isBound, isValues, inside⟩ :=
              bindParameters_of_types few atTypes rfl (kept types before) (plain _ isFor) bitmap decoded
                fits
            have notOne : flag.toNat ≠ 1 := by
              intro one
              exact isNew (UInt8.toNat_inj.mp one)
            simp only [notOne, if_false, isBound]
            refine ⟨_, binds, next, rfl, isValues, inside, fun _ _ => rfl, ?_⟩
            intro others same i below
            rw [← before, isFor] at same
            cases same
            exact kept types before i below

/-- What a statement that is open and served executes, and the types that are kept afterwards. -/
theorem Sound.execute (sound : conversation.Sound config) {packet : Buffer} (executed : Bool)
    (isOpen : conversation.watched.opened (Server.stmtidOf packet) = true)
    (served : conversation.Served packet) :
    ∃ after binds values,
      conversation.watched.response config (.stmtExecute packet executed) =
          ⟨{ conversation.watched.server with ptypes := after },
            if executed then .result else .error,
            some ⟨conversation.watched.server.querybuffers (Server.stmtidOf packet), binds, true⟩⟩ ∧
        decodePacket packet (conversation.paramcounts (Server.stmtidOf packet))
          (conversation.senttypes (Server.stmtidOf packet)) = some values ∧
        binds.map BindVar.value = values.map BindVar.value ∧
        (∀ other, other ≠ Server.stmtidOf packet →
          after other = conversation.watched.server.ptypes other) ∧
        ∀ types, typesFor packet (conversation.paramcounts (Server.stmtidOf packet))
            (conversation.senttypes (Server.stmtidOf packet)) = some types →
          ∀ i, i < conversation.paramcounts (Server.stmtidOf packet) →
            after (Server.stmtidOf packet) i = types i := by
  obtain ⟨values, decoded, fits⟩ := served.encoded
  have remembers := sound.remembers _ isOpen
  have known := sound.sound.cursorOf isOpen
  -- The bytes before the bitmap are in the packet.
  have atLeast := decodePacket_length decoded
  have afterId : (Reader.read packet ⟨1, true⟩ 4).2 = ⟨5, true⟩ :=
    Reader.read_snd packet (by simp only; omega)
  have afterFlags : (Reader.read packet ⟨5, true⟩ 1).2 = ⟨6, true⟩ :=
    Reader.read_snd packet (by simp only; omega)
  have afterCount : (Reader.read packet ⟨6, true⟩ 4).2 = ⟨10, true⟩ :=
    Reader.read_snd packet (by simp only; omega)
  have pcount : conversation.watched.server.pcounts (Server.stmtidOf packet) =
      conversation.paramcounts (Server.stmtidOf packet) := by
    rw [remembers.pcount]
    cases served.notReset with
    | inl notReset => simp [notReset]
    | inr noParameters => simp [noParameters]
  simp only [Server.stmtidOf] at known
  by_cases noParameters : conversation.paramcounts (Server.stmtidOf packet) = 0
  · have isNil : values = [] := by
      simp only [decodePacket, if_neg (Nat.not_lt.mpr atLeast), if_pos noParameters] at decoded
      cases decoded
      rfl
    subst isNil
    refine ⟨conversation.watched.server.ptypes, [], [], ?_, decoded, rfl, fun _ _ => rfl, ?_⟩
    · rw [noParameters] at pcount
      simp only [Server.stmtidOf] at pcount
      simp only [Watched.response, Server.serve, Server.comStmtExecute, known, afterId, afterFlags,
        afterCount, pcount, if_true, Server.stmtidOf]
    · intro types _ i below
      rw [noParameters] at below
      cases below
  · obtain ⟨after, binds, next, read, isValues, inside, others, row⟩ :=
      readParameters_eq noParameters remembers.few decoded fits served.plain remembers.types
    refine ⟨after, binds, values, ?_, decoded, isValues, others, row⟩
    rw [← pcount] at noParameters read
    simp only [Server.stmtidOf] at noParameters read
    simp only [Watched.response, Server.serve, Server.comStmtExecute, known, afterId, afterFlags,
      afterCount, noParameters, if_false, read, inside, Server.stmtidOf]

end Conversation

end SqlRelay.Mysql
