import SqlRelay.Mysql.Binding

/-!
# Executions in a session

What the module has by the id of a statement stays right while only statements that are open are
executed, closed and reset.
-/

namespace SqlRelay.Mysql

open SqlRelay.Foundation SqlRelay.Cursors

namespace Conversation

variable {config : Config} {conversation : Conversation}

/-- What is kept of a statement that a request does not concern. -/
theorem Remembers.frame {stmtid : Nat} (remembers : conversation.Remembers config stmtid)
    {after : Conversation}
    (pcounts : after.watched.server.pcounts stmtid = conversation.watched.server.pcounts stmtid)
    (ptypes : after.watched.server.ptypes stmtid = conversation.watched.server.ptypes stmtid)
    (paramcounts : after.paramcounts stmtid = conversation.paramcounts stmtid)
    (senttypes : after.senttypes stmtid = conversation.senttypes stmtid)
    (resets : after.resets stmtid = conversation.resets stmtid) :
    after.Remembers config stmtid where
  pcount := by
    rw [pcounts, paramcounts, resets]
    exact remembers.pcount
  few := by
    rw [paramcounts]
    exact remembers.few
  types := by
    rw [paramcounts, ptypes, senttypes]
    exact remembers.types

/-- A request whose answer leaves the server and the statements as they are. -/
theorem Sound.remembers_of_same (sound : conversation.Sound config) {after : Conversation}
    {stmtid : Nat} (isOpen : conversation.watched.opened stmtid = true)
    (pcounts : after.watched.server.pcounts = conversation.watched.server.pcounts)
    (ptypes : after.watched.server.ptypes = conversation.watched.server.ptypes)
    (paramcounts : after.paramcounts = conversation.paramcounts)
    (senttypes : after.senttypes = conversation.senttypes)
    (resets : after.resets = conversation.resets) : after.Remembers config stmtid :=
  (sound.remembers stmtid isOpen).frame (congrFun pcounts stmtid) (congrFun ptypes stmtid)
    (congrFun paramcounts stmtid) (congrFun senttypes stmtid) (congrFun resets stmtid)

/-! ## Requests -/

/-- A request that names no statement that is open names no cursor. -/
theorem known_or_unknown {stmtid : Nat} {P : Prop}
    (proper : conversation.watched.opened stmtid = true ∨ P) :
    conversation.watched.opened stmtid = true ∨
      (conversation.watched.opened stmtid = false ∧ P) := by
  cases isOpen : conversation.watched.opened stmtid with
  | true => exact Or.inl rfl
  | false =>
      cases proper with
      | inl isTrue =>
          rw [isOpen] at isTrue
          cases isTrue
      | inr holds => exact Or.inr ⟨rfl, holds⟩

theorem step_stmtExecute (config : Config) (conversation : Conversation) (packet : Buffer)
    (executed : Bool) :
    let after := conversation.step config (.stmtExecute packet executed)
    after.watched = conversation.watched.step config (.stmtExecute packet executed) ∧
      after.paramcounts = conversation.paramcounts ∧ after.resets = conversation.resets ∧
      ∀ other, other ≠ Server.stmtidOf packet →
        after.senttypes other = conversation.senttypes other := by
  simp only [step]
  split
  · refine ⟨rfl, rfl, rfl, ?_⟩
    intro other different
    exact Function.update_of_ne different ..
  · exact ⟨rfl, rfl, rfl, fun _ _ => rfl⟩

/-- The types that an execution has been sent, or that were sent before, are those that it used. -/
theorem typesFor_of_senttypes {packet : Buffer} {executed : Bool} {values : List BindVar}
    (someParameters : conversation.paramcounts (Server.stmtidOf packet) ≠ 0)
    (decoded : decodePacket packet (conversation.paramcounts (Server.stmtidOf packet))
      (conversation.senttypes (Server.stmtidOf packet)) = some values) :
    typesFor packet (conversation.paramcounts (Server.stmtidOf packet))
        (conversation.senttypes (Server.stmtidOf packet)) =
      (conversation.step config (.stmtExecute packet executed)).senttypes
        (Server.stmtidOf packet) := by
  have atLeast := decodePacket_length decoded
  simp only [decodePacket, if_neg (Nat.not_lt.mpr atLeast), if_neg someParameters] at decoded
  simp only [typesFor]
  cases header : decodeTypes packet (conversation.paramcounts (Server.stmtidOf packet)) with
  | none => simp [header] at decoded
  | some parts =>
      obtain ⟨new, bytes⟩ := parts
      cases new with
      | none => simp [step, header]
      | some types => simp [step, header]

theorem Sound.stmtExecute (sound : conversation.Sound config) {packet : Buffer} {executed : Bool}
    (orderly : conversation.Orderly config (.stmtExecute packet executed)) {stmtid : Nat}
    (isOpen : conversation.watched.opened stmtid = true) :
    (conversation.step config (.stmtExecute packet executed)).Remembers config stmtid := by
  have remembers := sound.remembers stmtid isOpen
  obtain ⟨watched, paramcounts, resets, others⟩ :=
    step_stmtExecute config conversation packet executed
  cases known_or_unknown orderly.proper with
  | inl named =>
      have served := orderly.served packet executed rfl named
      obtain ⟨types, binds, values, response, decoded, _, kept, row⟩ :=
        sound.execute executed named served
      have pcounts :
          (conversation.step config (.stmtExecute packet executed)).watched.server.pcounts =
            conversation.watched.server.pcounts := by
        rw [watched, Watched.step, response]
      have ptypes :
          (conversation.step config (.stmtExecute packet executed)).watched.server.ptypes = types := by
        rw [watched, Watched.step, response]
      by_cases same : stmtid = Server.stmtidOf packet
      · subst same
        constructor
        · rw [pcounts, paramcounts, resets]
          exact remembers.pcount
        · rw [paramcounts]
          exact remembers.few
        · rw [paramcounts, ptypes]
          intro sent isSent i below
          apply row sent _ i below
          rw [← isSent]
          exact typesFor_of_senttypes (Nat.ne_zero_of_lt below) decoded
      · apply remembers.frame
        · rw [pcounts]
        · rw [ptypes]
          exact kept stmtid same
        · rw [paramcounts]
        · exact others stmtid same
        · rw [resets]
  | inr unknown =>
      have response : conversation.watched.response config (.stmtExecute packet executed) =
          ⟨conversation.watched.server, .cursorNotOpen, none⟩ :=
        Watched.comStmtExecute_unknown executed unknown.2
      have different : stmtid ≠ Server.stmtidOf packet := by
        intro same
        rw [← same, isOpen] at unknown
        cases unknown.1
      apply remembers.frame
      · rw [watched, Watched.step, response]
      · rw [watched, Watched.step, response]
      · rw [paramcounts]
      · exact others stmtid different
      · rw [resets]

theorem Sound.stmtFetch (sound : conversation.Sound config) (fetched : Nat) {stmtid : Nat}
    (isOpen : conversation.watched.opened stmtid = true) :
    (conversation.step config (.stmtFetch fetched)).Remembers config stmtid := by
  cases known : conversation.watched.server.cursorOf fetched with
  | none =>
      have response : conversation.watched.response config (.stmtFetch fetched) =
          ⟨conversation.watched.server, .cursorNotOpen, none⟩ := by
        simp only [Watched.response, Server.serve, Server.comStmtFetch, known]
      apply sound.remembers_of_same isOpen <;> simp only [step, Watched.step, response]
  | some cursor =>
      have response : conversation.watched.response config (.stmtFetch fetched) =
          ⟨conversation.watched.server, .result, none⟩ := by
        simp only [Watched.response, Server.serve, Server.comStmtFetch, known]
      apply sound.remembers_of_same isOpen <;> simp only [step, Watched.step, response]

theorem Sound.stmtClose (sound : conversation.Sound config) {closed : Nat}
    (orderly : conversation.Orderly config (.stmtClose closed)) {stmtid : Nat}
    (isOpen : conversation.watched.opened stmtid = true) (different : stmtid ≠ closed) :
    (conversation.step config (.stmtClose closed)).Remembers config stmtid := by
  cases known_or_unknown orderly.proper with
  | inl named =>
      have response : conversation.watched.response config (.stmtClose closed) =
          ⟨{ conversation.watched.server with
              pcounts := Function.update conversation.watched.server.pcounts closed 0
              pool := conversation.watched.server.pool.release closed }, .silence, none⟩ := by
        simp only [Watched.response, Server.serve, Server.comStmtClose, sound.sound.cursorOf named]
      apply (sound.remembers stmtid isOpen).frame <;> simp only [step, Watched.step, response]
      exact Function.update_of_ne different ..
  | inr unknown =>
      have response : conversation.watched.response config (.stmtClose closed) =
          ⟨conversation.watched.server, .cursorNotOpen, none⟩ := by
        simp only [Watched.response, Server.serve, Server.comStmtClose, unknown.2]
      apply sound.remembers_of_same isOpen <;> simp only [step, Watched.step, response]

theorem Sound.stmtReset (sound : conversation.Sound config) {reset : Nat}
    (orderly : conversation.Orderly config (.stmtReset reset)) {stmtid : Nat}
    (isOpen : conversation.watched.opened stmtid = true) :
    (conversation.step config (.stmtReset reset)).Remembers config stmtid := by
  have remembers := sound.remembers stmtid isOpen
  cases known_or_unknown (orderly.reset reset rfl) with
  | inl named =>
      have response : conversation.watched.response config (.stmtReset reset) =
          ⟨{ conversation.watched.server with
              pcounts := Function.update conversation.watched.server.pcounts reset 0 },
            .ok, none⟩ := by
        simp only [Watched.response, Server.serve, Server.comStmtReset, sound.sound.cursorOf named]
      by_cases same : stmtid = reset
      · subst same
        constructor
        · simp [step, Watched.step, response]
        · exact remembers.few
        · simp only [step, Watched.step, response]
          exact remembers.types
      · apply remembers.frame <;> simp only [step, Watched.step, response]
        · exact Function.update_of_ne same ..
        · exact Function.update_of_ne same ..
  | inr unknown =>
      have response : conversation.watched.response config (.stmtReset reset) =
          ⟨conversation.watched.server, .cursorNotOpen, none⟩ := by
        simp only [Watched.response, Server.serve, Server.comStmtReset, unknown.2]
      have different : stmtid ≠ reset := by
        intro same
        rw [← same, isOpen] at unknown
        cases unknown.1
      apply remembers.frame <;> simp only [step, Watched.step, response]
      exact Function.update_of_ne different ..

theorem Sound.query (sound : conversation.Sound config) (query : List Byte) (executed : Bool)
    (opens : Nat → Bool) {stmtid : Nat} (isOpen : conversation.watched.opened stmtid = true) :
    (conversation.step config (.query query executed opens)).Remembers config stmtid := by
  have same : ∃ pool querybuffers, ∃ reply : Reply,
      (conversation.watched.response config (.query query executed opens)).server =
          { conversation.watched.server with pool := pool, querybuffers := querybuffers } ∧
        (conversation.watched.response config (.query query executed opens)).reply = reply ∧
        ∀ stmtid pcount, reply ≠ .prepareOk stmtid pcount := by
    simp only [Watched.response, Server.serve]
    split
    · next pool taken => exact ⟨pool, _, _, rfl, rfl, by simp⟩
    · next cursor pool taken =>
        simp only [Server.comQuery]
        split
        · exact ⟨_, _, _, rfl, rfl, by simp⟩
        · exact ⟨_, _, _, rfl, rfl, by cases executed <;> simp⟩
  obtain ⟨pool, querybuffers, reply, server, isReply, notPrepared⟩ := same
  have after : conversation.step config (.query query executed opens) =
      { conversation with
        watched := conversation.watched.step config (.query query executed opens) } := by
    simp only [step, isReply]
  rw [after]
  apply sound.remembers_of_same isOpen <;> simp only [Watched.step, server]

/-- The statement that is prepared was not open before. -/
theorem Sound.stmtPrepare (sound : conversation.Sound config) {query : List Byte} {prepared : Bool}
    {pcount : Nat} {opens : Nat → Bool}
    (orderly : conversation.Orderly config (.stmtPrepare query prepared pcount opens)) {stmtid : Nat}
    (isOpen : (conversation.step config
      (.stmtPrepare query prepared pcount opens)).watched.opened stmtid = true) :
    (conversation.step config (.stmtPrepare query prepared pcount opens)).Remembers config
      stmtid := by
  cases taken : Pool.getCursor config.pool opens conversation.watched.server.pool with
  | mk cursor pool =>
      cases cursor with
      | none =>
          have response : conversation.watched.response config
              (.stmtPrepare query prepared pcount opens) =
                ⟨{ conversation.watched.server with pool := pool }, .cursorNotOpen, none⟩ := by
            simp only [Watched.response, Server.serve, taken]
          have before : conversation.watched.opened stmtid = true := by
            simpa only [step, Watched.step, Watched.openedAfter, response] using isOpen
          apply sound.remembers_of_same before <;> simp only [step, Watched.step, response]
      | some cursor =>
          cases orderly.proper with
          | inl refused =>
              rw [taken] at refused
              cases refused
          | inr fine =>
              obtain ⟨fits, isPrepared, few⟩ := fine
              have response : conversation.watched.response config
                  (.stmtPrepare query prepared pcount opens) =
                    ⟨{ conversation.watched.server with
                        pool := pool
                        querybuffers :=
                          Function.update conversation.watched.server.querybuffers cursor query
                        pcounts :=
                          Function.update conversation.watched.server.pcounts cursor pcount },
                      .prepareOk cursor pcount, none⟩ := by
                simp [Watched.response, Server.serve, taken, Server.comStmtPrepare,
                  Nat.not_lt.mpr fits, isPrepared, Nat.not_lt.mpr few]
              by_cases same : stmtid = cursor
              · subst same
                constructor
                · simp [step, Watched.step, response]
                · simpa [step, response] using few
                · intro types sent
                  simp [step, response] at sent
              · have before : conversation.watched.opened stmtid = true := by
                  simpa [step, Watched.step, Watched.openedAfter, response, same] using isOpen
                apply (sound.remembers stmtid before).frame <;>
                  simp [step, Watched.step, response, same]

/-! ## Runs -/

@[simp] theorem watched_step (conversation : Conversation) (request : Request) :
    (conversation.step config request).watched = conversation.watched.step config request := by
  simp only [Conversation.step]
  split
  · split <;> rfl
  · rfl
  · split <;> rfl

/-- Only a COM_STMT_PREPARE is answered with a statement. -/
theorem opened_before {request : Request} {stmtid : Nat}
    (notPrepare : ∀ query prepared pcount opens, request ≠ .stmtPrepare query prepared pcount opens)
    (isOpen : (conversation.watched.step config request).opened stmtid = true) :
    conversation.watched.opened stmtid = true ∧ request ≠ .stmtClose stmtid := by
  have unprepared : ∀ other pcount,
      (conversation.watched.response config request).reply ≠ .prepareOk other pcount := by
    intro other pcount
    cases request with
    | stmtPrepare query prepared pcount opens =>
        exact absurd rfl (notPrepare query prepared pcount opens)
    | stmtExecute packet executed =>
        cases known : conversation.watched.server.cursorOf (Server.stmtidOf packet) with
        | none =>
            simp [Watched.response, Server.serve, Watched.comStmtExecute_unknown executed known]
        | some cursor => exact (Watched.comStmtExecute_known config executed known).2.2 other pcount
    | stmtFetch fetched =>
        simp only [Watched.response, Server.serve, Server.comStmtFetch]
        split <;> simp
    | stmtClose closed =>
        simp only [Watched.response, Server.serve, Server.comStmtClose]
        split <;> simp
    | stmtReset reset =>
        simp only [Watched.response, Server.serve, Server.comStmtReset]
        split <;> simp
    | query query executed opens =>
        simp only [Watched.response, Server.serve, Server.comQuery]
        split
        · simp
        · split
          · simp
          · cases executed <;> simp
  simp only [Watched.step, Watched.openedAfter] at isOpen
  split at isOpen
  · next closed =>
      by_cases same : stmtid = closed
      · simp [same] at isOpen
      · rw [Function.update_of_ne same] at isOpen
        refine ⟨isOpen, ?_⟩
        intro closes
        cases closes
        exact same rfl
  · next notClose =>
      exact ⟨isOpen, notClose stmtid⟩

theorem Sound.step (sound : conversation.Sound config) {request : Request}
    (orderly : conversation.Orderly config request) :
    (conversation.step config request).Sound config where
  sound := by
    rw [watched_step]
    exact sound.sound.step orderly.proper
  remembers stmtid isOpen := by
    cases request with
    | stmtPrepare query prepared pcount opens => exact sound.stmtPrepare orderly isOpen
    | stmtExecute packet executed =>
        rw [watched_step] at isOpen
        exact sound.stmtExecute orderly (opened_before (by simp) isOpen).1
    | stmtFetch fetched =>
        rw [watched_step] at isOpen
        exact sound.stmtFetch fetched (opened_before (by simp) isOpen).1
    | stmtClose closed =>
        rw [watched_step] at isOpen
        have before := opened_before (by simp) isOpen
        apply sound.stmtClose orderly before.1
        intro same
        exact before.2 (congrArg Request.stmtClose same.symm)
    | stmtReset reset =>
        rw [watched_step] at isOpen
        exact sound.stmtReset orderly (opened_before (by simp) isOpen).1
    | query query executed opens =>
        rw [watched_step] at isOpen
        exact sound.query query executed opens (opened_before (by simp) isOpen).1

theorem Sound.right (sound : conversation.Sound config) {request : Request}
    (orderly : conversation.Orderly config request) : conversation.Right config request := by
  cases request with
  | stmtExecute packet executed =>
      intro isOpen execution isExecuted
      obtain ⟨types, binds, values, response, decoded, same, _⟩ :=
        sound.execute executed isOpen (orderly.served packet executed rfl isOpen)
      rw [response] at isExecuted
      cases isExecuted
      exact ⟨rfl, values, decoded, same⟩
  | _ => trivial

/-- In a session whose requests are all orderly, every execution binds the values that the client has
encoded, and reads nothing else. -/
theorem right_along (config : Config) (count : Nat) (querybuffers : Nat → List Byte)
    (pcounts : Nat → Nat) (ptypes : Nat → Nat → Nat) {requests : List Request}
    (orderly : Along (step config) (Orderly config)
      (start config count querybuffers pcounts ptypes) requests) :
    Along (step config) (Right config) (start config count querybuffers pcounts ptypes)
      requests := by
  apply Along.of_guard _ _ (sound_start config count querybuffers pcounts ptypes) orderly
  · intro conversation request sound orderly
    exact sound.step orderly
  · intro conversation request sound orderly
    exact sound.right orderly

theorem orderly_stmtPrepare {query : List Byte} {prepared : Bool} {pcount : Nat}
    {opens : Nat → Bool}
    (proper : conversation.watched.Proper config (.stmtPrepare query prepared pcount opens)) :
    conversation.Orderly config (.stmtPrepare query prepared pcount opens) where
  proper := proper
  reset stmtid same := by cases same
  served packet executed same := by cases same

theorem orderly_stmtExecute {packet : Buffer} {executed : Bool}
    (isOpen : conversation.watched.opened (Server.stmtidOf packet) = true)
    (served : conversation.Served packet) :
    conversation.Orderly config (.stmtExecute packet executed) where
  proper := Or.inl isOpen
  reset stmtid same := by cases same
  served other _ same _ := by
    cases same
    exact served

/-- An execution of statement 0, with what follows the bitmap. -/
def execution (rest : List Byte) : Request :=
  .stmtExecute ⟨[0x17, 0, 0, 0, 0, 0, 1, 0, 0, 0, 0] ++ rest, fun _ => 0⟩ true

/-- A statement with a number and a string as its parameters, that is executed with types first, and
then without. -/
def insertion : List Request :=
  [.stmtPrepare (ascii "insert") true 2 fun _ => true,
    execution [1, 3, 0, 0xfd, 0, 42, 0, 0, 0, 2, 97, 98],
    execution [0, 7, 0, 0, 0, 1, 99]]

theorem right_along_insertion :
    Along (step Watched.fiveCursors) (Right Watched.fiveCursors)
      (start Watched.fiveCursors 1 (fun _ => []) (fun _ => 0) fun _ _ => 0) insertion := by
  have strings : ∀ {value : Int} {bytes : List Byte},
      ∀ bindvar ∈ [BindVar.integer value, .string bytes], bindvar.Fits := by
    intro value bytes bindvar listed
    simp only [List.mem_cons, List.not_mem_nil, or_false] at listed
    cases listed with
    | inl same =>
        subst same
        trivial
    | inr same =>
        subst same
        trivial
  have plain : ∀ i, Plain (typesIn [3, 0, 0xfd, 0] i) := by
    intro i
    apply Or.inl
    match i with
    | 0 => decide
    | 1 => decide
    | i + 2 =>
        have behind : [3, 0, 0xfd, 0].drop (2 * (i + 2)) = ([] : List Byte) :=
          List.drop_eq_nil_of_le (Nat.le_add_left 4 (2 * i))
        simp [typesIn, behind, littleEndian]
  apply right_along
  refine ⟨orderly_stmtPrepare (Or.inr (by decide)), orderly_stmtExecute rfl ?_,
    orderly_stmtExecute rfl ?_, trivial⟩
  · constructor
    · exact Or.inl rfl
    · exact ⟨[.integer 42, .string [97, 98]], by decide, strings⟩
    · intro types isFor i _ _
      cases isFor
      exact plain i
  · constructor
    · exact Or.inl rfl
    · exact ⟨[.integer 7, .string [99]], by decide, strings⟩
    · intro types isFor i _ _
      cases isFor
      exact plain i

/-- A statement with one parameter, that an unsigned number is sent for. -/
def unsignedParameter : List Request :=
  [.stmtPrepare (ascii "insert") true 1 fun _ => true, execution [1, 3, 0x80, 1, 0, 0, 0]]

/-- It is read as a string, by a size that is the first byte of the number. -/
theorem unsignedParameter_misread :
    ¬∀ (config : Config) (count : Nat) (querybuffers : Nat → List Byte) (pcounts : Nat → Nat)
      (ptypes : Nat → Nat → Nat) (requests : List Request),
      Along (step config) (Right config) (start config count querybuffers pcounts ptypes)
        requests := by
  intro right
  have along := right Watched.fiveCursors 1 (fun _ => []) (fun _ => 0) (fun _ _ => 0)
    unsignedParameter
  obtain ⟨_, values, decoded, same⟩ :=
    along.2.1 rfl ⟨ascii "insert", [.string [0]], true⟩ (by decide)
  have isOne : some [BindVar.integer 1] = some values := decoded
  cases isOne
  exact absurd same (by decide)

end Conversation

end SqlRelay.Mysql
