import Oboobot.Broker.DerivPositions
import Mathlib.Data.List.Forall2

/-! The positions that the Deriv adapter lists are those it has opened, and can be closed
by the ids they are listed with. -/

namespace Oboobot.Broker

open Domain Interaction Wire

namespace WireLog

/-- The requests that were answered, each with its response. -/
def responses (log : WireLog) : List (Request × Value) :=
  log.answered.filterMap fun answer => answer.2.toOption.map fun response => (answer.1, response)

/-- The last request was given up on. -/
def GaveUp (log : WireLog) : Prop :=
  ∃ request failure, log.answered.getLast? = some (request, .error failure)

end WireLog

/-- The log of everything that happens on the wire, without any promise. -/
def observed : Contract WireCall WireReply WireLog := monitor WireLog.after fun _ _ => True

theorem responses_failures (request : Request) (failures : List BrokerError) :
    (failures.map fun failure => (request, (.error failure : Except BrokerError Value))).filterMap
      (fun answer => answer.2.toOption.map fun response => (answer.1, response)) = [] := by
  rw [List.filterMap_map]
  exact List.filterMap_eq_nil_iff.mpr fun _ _ => rfl

theorem Settled.responses {request : Request} {start log : WireLog} {response : Value}
    (settled : Settled request start (.ok response) log) :
    log.responses = start.responses ++ [(request, response)] := by
  obtain ⟨failures, _, _, _, answered, _⟩ := settled
  rw [WireLog.responses, answered, List.filterMap_append, List.filterMap_append,
    responses_failures, List.append_nil]
  rfl

theorem responses_of_answered {request : Request} {start log : WireLog} {response : Value}
    (answered : log.answered = start.answered ++ [(request, .ok response)]) :
    log.responses = start.responses ++ [(request, response)] := by
  rw [WireLog.responses, answered, List.filterMap_append]
  rfl

theorem Settled.gaveUp {request : Request} {start log : WireLog} {failure : BrokerError}
    (settled : Settled request start (.error failure) log) : log.GaveUp := by
  obtain ⟨failures, _, _, _, answered, _⟩ := settled
  exact ⟨request, failure, by rw [answered, List.getLast?_concat]⟩

/-- A request that is retried is answered in the end, or given up on. -/
theorem ask_meets {α : Type} {request : Request} {start : WireLog} {next : Value → Wire α}
    {post : α → WireLog → Prop} {failed : BrokerError → WireLog → Prop}
    (rest : ∀ response log, log.responses = start.responses ++ [(request, response)] →
      (next response).Meets observed post failed log)
    (gaveUp : ∀ failure log, log.GaveUp → failed failure log) :
    (callWithRetry request >>= fun reply => accepted reply >>= next).Meets observed post failed
      start := by
  rw [meets_bind]
  apply (callWithRetry_meets (fun _ _ _ => trivial) fun _ _ _ => trivial).weaken
  · intro result log settled
    rw [meets_bind, meets_ofExcept]
    constructor
    · rintro response rfl
      exact rest response log settled.responses
    · rintro failure rfl
      exact gaveUp failure log settled.gaveUp
  · exact fun _ _ given => given

section listing

variable (parse : String → Option Decimal) (fromTimestamp : Int → Option Instant)

/-- What has to be readable of a contract that is still open. -/
structure ReadableDetail (detail : Value) : Prop where
  prices : ∀ field ∈ ["buy_price", "bid_price", "profit"], ∃ text,
    (detail.get field).bind Value.asStr = some text ∧ (parse text).isSome = true
  purchased : ∃ time, (detail.get "purchase_time").bind Value.asI64 = some time ∧
    (fromTimestamp time).isSome = true

/-- The responses that the listing can go by. -/
def WellFormed : Request × Value → Prop
  | (.portfolio, response) => ∃ entries, portfolioEntries response = some entries ∧
    ∀ entry ∈ entries, (portfolioContract entry).isSome = true
  | (.proposalOpenContract _, response) => ∃ detail,
    response.get "proposal_open_contract" = some detail ∧
      (isSold detail = false → ReadableDetail parse fromTimestamp detail)
  | _ => True

/-- A request was given up on, or a response is not well formed. -/
def Spoiled (log : WireLog) : Prop :=
  log.GaveUp ∨ ∃ answer ∈ log.responses, ¬WellFormed parse fromTimestamp answer

variable {parse fromTimestamp}

/-- What is found and converted is passed on, unless it cannot be. -/
theorem converted_meets {α β γ : Type} {found : Option α} {convert : α → Option β}
    {missing invalid : String} {log : WireLog} {next : β → Wire γ} {post : γ → WireLog → Prop}
    {failed : BrokerError → WireLog → Prop}
    (rest : ∀ value, (next value).Meets observed post failed log)
    (unreadable : (¬∃ raw, found = some raw ∧ (convert raw).isSome = true) →
      ∀ failure, failed failure log) :
    (usable found missing >>= fun raw => usable (convert raw) invalid >>= next).Meets observed
      post failed log := by
  rw [meets_bind, meets_usable]
  constructor
  · intro raw same
    rw [meets_bind, meets_usable]
    refine ⟨fun value _ => rest value, fun fails => unreadable ?_ _⟩
    intro readable
    obtain ⟨other, found, converted⟩ := readable
    rw [same] at found
    cases found
    rw [fails] at converted
    cases converted
  · intro none
    refine unreadable ?_ _
    intro readable
    obtain ⟨raw, found, _⟩ := readable
    rw [none] at found
    cases found

theorem decimalField_bind {α : Type} (detail : Value) (field : String) (next : Decimal → Wire α) :
    decimalField parse detail field >>= next =
      usable ((detail.get field).bind Value.asStr)
          ("proposal_open_contract had no usable " ++ field) >>= fun text =>
        usable (parse text) (field ++ " was not a valid decimal") >>= next := by
  unfold decimalField
  cases (detail.get field).bind Value.asStr <;> rfl

/-- The contract had been sold when it was asked for. -/
def soldBy (response : Value) : Bool := (response.get "proposal_open_contract").any isSold

theorem fetchOpenPosition_meets (contractId : UInt64) (pair : String) (direction : Direction)
    (start : WireLog) :
    (fetchOpenPosition parse fromTimestamp contractId pair direction).Meets observed
      (fun result log => ∃ response,
        log.responses = start.responses ++ [(.proposalOpenContract contractId, response)] ∧
        ((soldBy response = true ∧ result = none) ∨
          soldBy response = false ∧ ∃ position, result = some position ∧
            position.positionId = BitVec.ofNat 128 contractId.toNat ∧
            position.pair = pair ∧ position.direction = direction))
      (fun _ log => Spoiled parse fromTimestamp log) start := by
  unfold fetchOpenPosition
  apply ask_meets
  · intro response log answered
    have member : (.proposalOpenContract contractId, response) ∈ log.responses := by
      rw [answered]
      exact List.mem_append_right _ List.mem_cons_self
    rw [meets_bind, meets_usable]
    constructor
    · intro detail found
      have sold : soldBy response = isSold detail := by rw [soldBy, found]; rfl
      cases gone : isSold detail with
      | true => exact ⟨response, answered, .inl ⟨sold.trans gone, rfl⟩⟩
      | false =>
        have spoiled (unreadable : ¬ReadableDetail parse fromTimestamp detail) :
            Spoiled parse fromTimestamp log := by
          refine .inr ⟨_, member, ?_⟩
          intro wellFormed
          obtain ⟨other, same, readable⟩ := wellFormed
          rw [found] at same
          cases same
          exact unreadable (readable gone)
        have prices (field : String) (priced : field ∈ ["buy_price", "bid_price", "profit"])
            (unreadable : ¬∃ text, (detail.get field).bind Value.asStr = some text ∧
              (parse text).isSome = true) : Spoiled parse fromTimestamp log :=
          spoiled fun readable => unreadable (readable.prices field priced)
        rw [if_neg Bool.false_ne_true, decimalField_bind]
        refine converted_meets (fun entryPrice => ?_) fun missing _ => prices _ (by simp) missing
        rw [decimalField_bind]
        refine converted_meets (fun currentPrice => ?_) fun missing _ => prices _ (by simp) missing
        rw [decimalField_bind]
        refine converted_meets (fun unrealizedPnl => ?_) fun missing _ => prices _ (by simp) missing
        refine converted_meets (fun entryTime => ?_)
          fun missing _ => spoiled fun readable => missing readable.purchased
        simp only [meets_bind, observed, meets_perform_monitor, meets_pure, true_and]
        intro traceId signalId lastUpdate
        exact ⟨response, answered, .inr ⟨sold.trans gone, _, rfl, rfl, rfl, rfl⟩⟩
    · intro missing
      refine .inr ⟨_, member, ?_⟩
      intro wellFormed
      obtain ⟨detail, found, _⟩ := wellFormed
      rw [missing] at found
      cases found
  · exact fun _ _ gaveUp => .inl gaveUp

/-- The position is the contract, on the pair and in the direction that its symbol and its
type stand for. -/
structure Identifies (contract : PortfolioContract) (position : Position) : Prop where
  positionId : position.positionId = BitVec.ofNat 128 contract.contractId.toNat
  pair : fromDerivSymbol contract.underlyingSymbol = some position.pair
  direction : directionFromContractType contract.contractType = some position.direction

/-- The listing has asked for the details of these contracts, as far as an order could have
opened them, and has a position for each that is not sold. -/
structure ListedFrom (portfolio : Value) (contracts : List PortfolioContract)
    (details : List (PortfolioContract × Value)) (positions : List Position)
    (log : WireLog) : Prop where
  responses : log.responses = (.portfolio, portfolio) ::
    details.map fun asked => (.proposalOpenContract asked.1.contractId, asked.2)
  asked : details.map Prod.fst = contracts.filter fun contract => CouldHaveOpened contract
  listed : List.Forall₂ (fun asked position => Identifies asked.1 position)
    (details.filter fun asked => !soldBy asked.2) positions

theorem ListedFrom.skip {portfolio : Value} {contracts : List PortfolioContract}
    {details : List (PortfolioContract × Value)} {positions : List Position} {log : WireLog}
    {contract : PortfolioContract} (so : ListedFrom portfolio contracts details positions log)
    (foreign : ¬CouldHaveOpened contract) :
    ListedFrom portfolio (contracts ++ [contract]) details positions log where
  responses := so.responses
  asked := by
    rw [List.filter_append, List.filter_singleton, so.asked]
    simp [foreign]
  listed := so.listed

theorem ListedFrom.ask {portfolio response : Value} {contracts : List PortfolioContract}
    {details : List (PortfolioContract × Value)} {positions : List Position} {log after : WireLog}
    {contract : PortfolioContract} {result : Option Position}
    (so : ListedFrom portfolio contracts details positions log) (own : CouldHaveOpened contract)
    (answered : after.responses =
      log.responses ++ [(.proposalOpenContract contract.contractId, response)])
    (found : (soldBy response = true ∧ result = none) ∨
      soldBy response = false ∧ ∃ position, result = some position ∧ Identifies contract position) :
    ListedFrom portfolio (contracts ++ [contract]) (details ++ [(contract, response)])
      (positions ++ result.toList) after where
  responses := by
    rw [answered, so.responses, List.map_append]
    rfl
  asked := by
    rw [List.map_append, so.asked, List.filter_append, List.filter_singleton]
    simp [own]
  listed := by
    rw [List.filter_append, List.filter_singleton]
    apply List.rel_append so.listed
    rcases found with ⟨sold, rfl⟩ | ⟨unsold, position, rfl, identified⟩
    · rw [sold]
      exact .nil
    · rw [unsold]
      exact .cons identified .nil

theorem listEntry_meets {portfolio entry : Value} {contracts : List PortfolioContract}
    {details : List (PortfolioContract × Value)} {positions : List Position} {log : WireLog}
    {entries : List Value} (readable : portfolioEntries portfolio = some entries)
    (member : entry ∈ entries) (so : ListedFrom portfolio contracts details positions log) :
    (listEntry parse fromTimestamp positions entry).Meets observed
      (fun positions log => ∃ contract details, portfolioContract entry = some contract ∧
        ListedFrom portfolio (contracts ++ [contract]) details positions log)
      (fun _ log => Spoiled parse fromTimestamp log) log := by
  unfold listEntry
  rw [meets_bind, meets_usable]
  constructor
  · intro contract read
    cases pairOf : fromDerivSymbol contract.underlyingSymbol with
    | none =>
      refine ⟨contract, details, read, so.skip fun own => ?_⟩
      rw [couldHaveOpened_iff, pairOf] at own
      cases own.1
    | some pair =>
      cases directionOf : directionFromContractType contract.contractType with
      | none =>
        refine ⟨contract, details, read, so.skip fun own => ?_⟩
        rw [couldHaveOpened_iff, directionOf] at own
        cases own.2
      | some direction =>
        have own : CouldHaveOpened contract := by
          rw [couldHaveOpened_iff, pairOf, directionOf]
          exact ⟨rfl, rfl⟩
        dsimp only
        rw [meets_bind]
        apply (fetchOpenPosition_meets contract.contractId pair direction log).weaken
        · intro result after reached
          obtain ⟨response, answered, found⟩ := reached
          refine ⟨contract, _, read, so.ask own answered ?_⟩
          rcases found with sold | ⟨unsold, position, same, positionId, rfl, rfl⟩
          · exact .inl sold
          · exact .inr ⟨unsold, position, same, positionId, pairOf, directionOf⟩
        · exact fun _ _ given => given
  · intro missing
    refine .inr ⟨(.portfolio, portfolio), by simp [so.responses], ?_⟩
    intro wellFormed
    obtain ⟨others, same, identified⟩ := wellFormed
    rw [readable] at same
    cases same
    have identified := identified entry member
    rw [missing] at identified
    cases identified

theorem listOpenPositions_meets :
    (listOpenPositions parse fromTimestamp).Meets observed
      (fun positions log => ∃ portfolio entries contracts details,
        portfolioEntries portfolio = some entries ∧
        entries.map portfolioContract = contracts.map some ∧
        ListedFrom portfolio contracts details positions log)
      (fun _ log => Spoiled parse fromTimestamp log) .empty := by
  unfold listOpenPositions
  apply ask_meets
  · intro portfolio log answered
    rw [meets_bind, meets_usable]
    constructor
    · intro entries readable
      have start : ListedFrom portfolio [] [] [] log :=
        { responses := answered, asked := rfl, listed := .nil }
      apply (meets_foldlM (fun front positions log => ∃ contracts details,
        front.map portfolioContract = contracts.map some ∧
          ListedFrom portfolio contracts details positions log) ?_ [] ⟨[], [], rfl, start⟩).weaken
      · intro positions after reached
        obtain ⟨contracts, details, read, so⟩ := reached
        exact ⟨portfolio, entries, contracts, details, readable, read, so⟩
      · exact fun _ _ given => given
      · intro front entry back positions middle same soFar
        obtain ⟨contracts, details, read, so⟩ := soFar
        have member : entry ∈ entries := by simp [same]
        apply (listEntry_meets readable member so).weaken
        · intro positions after reached
          obtain ⟨contract, details, last, so⟩ := reached
          refine ⟨contracts ++ [contract], details, ?_, so⟩
          rw [List.map_append, List.map_append, read, List.map_singleton, last]
          rfl
        · exact fun _ _ given => given
    · intro missing
      refine .inr ⟨(.portfolio, portfolio), by simp [answered], ?_⟩
      intro wellFormed
      obtain ⟨entries, readable, _⟩ := wellFormed
      rw [missing] at readable
      cases readable
  · exact fun _ _ gaveUp => .inl gaveUp

end listing

section orders

variable {tryFrom : ℚ → Option Decimal}

theorem sendsOnly_observed : SendsOnly fun _ _ => True := fun _ _ _ => trivial

theorem submitOrder_returns (request : OrderRequest) :
    (submitOrder tryFrom request).Meets observed
      (fun order log => ∃ proposal id price bought contractId,
        log.responses =
          [(.proposal (proposalParams request), proposal), (.buy id price, bought)] ∧
        boughtContractId bought = some contractId ∧ order.pair = request.pair ∧
        order.side = request.side ∧
        order.positionId = some (BitVec.ofNat 128 contractId.toNat))
      (fun _ _ => True) .empty := by
  unfold submitOrder
  apply ask_meets
  · intro proposal log proposed
    rw [meets_bind, meets_usable]
    refine ⟨fun id _ => ?_, fun _ => trivial⟩
    rw [meets_bind, meets_usable]
    refine ⟨fun price _ => ?_, fun _ => trivial⟩
    rw [meets_bind]
    apply (call_meets sendsOnly_observed fun _ => trivial).weaken
    · intro result after reached
      obtain ⟨_, answered⟩ := reached
      rw [meets_bind, meets_ofExcept]
      refine ⟨?_, fun _ _ => trivial⟩
      rintro bought rfl
      rw [meets_bind, meets_usable]
      refine ⟨fun contractId named => ?_, fun _ => trivial⟩
      dsimp only
      rw [meets_bind, meets_usable]
      refine ⟨fun fillPrice _ => ?_, fun _ => trivial⟩
      simp only [meets_bind, observed, meets_perform_monitor, meets_pure, true_and]
      intro timestamp lastUpdate
      refine ⟨proposal, id, price, bought, contractId, ?_, named, rfl⟩
      exact (responses_of_answered answered).trans (by rw [proposed]; rfl)
    · exact fun _ _ given => given
  · exact fun _ _ _ => trivial

theorem closePosition_sells (positionId : Uuid) :
    (closePosition tryFrom positionId).Meets observed
      (fun _ log => log.sent = [.sell (contractIdOf positionId) 0])
      (fun _ log => log.sent = [.sell (contractIdOf positionId) 0]) .empty := by
  unfold closePosition
  rw [meets_bind]
  apply (call_meets sendsOnly_observed fun _ => trivial).weaken
  · intro result after reached
    obtain ⟨sent, _⟩ := reached
    simp only [meets_bind, meets_ofExcept, meets_usable, observed, meets_perform_monitor,
      meets_pure, true_and]
    simp [sent, WireLog.after, WireLog.empty]
  · exact fun _ _ given => given

/-- The order came back from a submission of the request, which bought that contract. -/
def BoughtAs (tryFrom : ℚ → Option Decimal) (request : OrderRequest) (order : Order)
    (contractId : UInt64) : Prop :=
  ∃ events id price bought, Trace (submitOrder tryFrom request) events (.done order) ∧
    (.buy id price, bought) ∈ (WireLog.ofEvents events).responses ∧
    boughtContractId bought = some contractId

theorem BoughtAs.returned {request : OrderRequest} {order : Order} {contractId : UInt64}
    (bought : BoughtAs tryFrom request order contractId) :
    order.pair = request.pair ∧ order.side = request.side ∧
      order.positionId = some (BitVec.ofNat 128 contractId.toNat) := by
  obtain ⟨events, id, price, response, trace, member, named⟩ := bought
  obtain ⟨proposal, _, _, _, _, responses, found, pair, side, positionId⟩ :=
    (submitOrder_returns request).ends_done trace (steps_monitor events _)
  unfold WireLog.ofEvents at member
  rw [responses] at member
  rcases List.mem_cons.mp member with same | same
  · cases same
  · cases List.mem_singleton.mp same
    rw [named] at found
    cases found
    exact ⟨pair, side, positionId⟩

end orders

/-- The position is the one that an order bought as the contract was given, and closing
it sells the contract. -/
structure Lists (contract : PortfolioContract) (position : Position) : Prop
    extends Identifies contract position where
  submitted : ∀ tryFrom request order, BoughtAs tryFrom request order contract.contractId →
    ReportedAs request contract →
      position.pair = request.pair ∧ position.direction = request.side ∧
      order.pair = position.pair ∧ order.side = position.direction ∧
      order.positionId = some position.positionId
  sold : ∀ tryFrom events outcome,
    Trace (closePosition tryFrom position.positionId) events outcome → outcome ≠ .stopped →
      (WireLog.ofEvents events).sent = [.sell contract.contractId 0]

theorem Identifies.lists {contract : PortfolioContract} {position : Position}
    (identified : Identifies contract position) : Lists contract position where
  toIdentifies := identified
  submitted := by
    intro tryFrom request order bought reported
    obtain ⟨orderPair, orderSide, positionId⟩ := bought.returned
    obtain ⟨pair, side⟩ := reportedAs_iff.mp reported
    have samePair : position.pair = request.pair :=
      Option.some.inj (identified.pair.symm.trans pair)
    have sameSide : position.direction = request.side :=
      Option.some.inj (identified.direction.symm.trans side)
    refine ⟨samePair, sameSide, orderPair.trans samePair.symm, orderSide.trans sameSide.symm, ?_⟩
    rw [positionId, identified.positionId]
  sold := by
    intro tryFrom events outcome trace finished
    have ends := (closePosition_sells position.positionId).ends trace (steps_monitor events _)
    rw [identified.positionId, contractIdOf_ofNat] at ends
    cases outcome with
    | done order => exact ends
    | failed failure => exact ends
    | stopped => exact absurd rfl finished

/-- The positions are those of the contracts in a portfolio that an order could have
opened and that were not sold when they were asked for, in the order of the portfolio. -/
def ListsOpened (positions : List Position) (log : WireLog) : Prop :=
  ∃ (portfolio : Value) (entries : List Value) (contracts : List PortfolioContract)
      (details : List (PortfolioContract × Value)), portfolioEntries portfolio = some entries ∧
    entries.map portfolioContract = contracts.map some ∧
    log.responses = (.portfolio, portfolio) ::
      details.map (fun asked => (.proposalOpenContract asked.1.contractId, asked.2)) ∧
    details.map Prod.fst = contracts.filter (fun contract => CouldHaveOpened contract) ∧
    List.Forall₂ (fun asked position => Lists asked.1 position)
      (details.filter fun asked => !soldBy asked.2) positions

/-- The listing ends with the positions of the portfolio, unless a request is given up on or
a response is not well formed. -/
theorem listed_as_opened (parse : String → Option Decimal) (fromTimestamp : Int → Option Instant)
    (events : List WireEvent) (outcome : Outcome BrokerError (List Position))
    (trace : Trace (listOpenPositions parse fromTimestamp) events outcome)
    (finished : outcome ≠ .stopped) :
    (∃ positions, outcome = .done positions ∧ ListsOpened positions (.ofEvents events)) ∨
      (∃ failure, outcome = .failed failure) ∧
        Spoiled parse fromTimestamp (.ofEvents events) := by
  have ends := listOpenPositions_meets.ends trace (steps_monitor events _)
  cases outcome with
  | done positions =>
    obtain ⟨portfolio, entries, contracts, details, readable, read, so⟩ := ends
    exact .inl ⟨positions, rfl, portfolio, entries, contracts, details, readable, read,
      so.responses, so.asked, so.listed.imp fun _ _ identified => identified.lists⟩
  | failed failure => exact .inr ⟨⟨failure, rfl⟩, ends⟩
  | stopped => exact absurd rfl finished

/-- A wire on which every request is sent, and answered by `replyTo`. -/
def answeringWire (replyTo : Request → Value) (log : WireLog) (call : WireCall) :
    WireReply call × WireLog :=
  let reply : WireReply call := match call with
    | .nextReqId => (1 : UInt64)
    | .send _ _ => Except.ok ()
    | .awaitReply _ => match log.waiting with
      | some (_, request) => Awaited.message (replyTo request)
      | none => Awaited.closed
    | .sleep _ => ()
    | .utcNow => (0 : Int)
    | .newUuid => (0 : Uuid)
  (reply, log.after ⟨call, reply⟩)

/-- Every request was answered as it is answered on that wire. -/
def AnsweredBy (replyTo : Request → Value) (log : WireLog) : Prop :=
  ∀ answer ∈ log.answered, answer.2 = .ok (replyTo answer.1)

section answering

variable {replyTo : Request → Value}

theorem answeredBy_step (accepts : ∀ request, ofResponse (replyTo request) = .ok (replyTo request))
    (log : WireLog) (call : WireCall) (so : AnsweredBy replyTo log) :
    AnsweredBy replyTo (answeringWire replyTo log call).2 := by
  cases call with
  | awaitReply reqId =>
    cases waiting : log.waiting with
    | none => simpa [answeringWire, WireLog.after, waiting] using so
    | some waited =>
      obtain ⟨other, request⟩ := waited
      simp only [answeringWire, WireLog.after, waiting]
      split
      · intro answer member
        rcases List.mem_append.mp member with earlier | last
        · exact so answer earlier
        · cases List.mem_singleton.mp last
          exact accepts request
      · exact so
  | _ => exact so

theorem answeredBy_played (accepts : ∀ request, ofResponse (replyTo request) = .ok (replyTo request))
    {α : Type} (program : Wire α) :
    AnsweredBy replyTo (.ofEvents (program.play (answeringWire replyTo) .empty).1) := by
  have faithful : ∀ log call, True →
      observed.step (id log) ⟨call, (answeringWire replyTo log call).1⟩
        (id (answeringWire replyTo log call).2) ∧ True := fun _ _ _ => ⟨rfl, trivial⟩
  have steps : Steps observed.step (id WireLog.empty)
      (program.play (answeringWire replyTo) .empty).1
      (id (program.play (answeringWire replyTo) .empty).2.2) :=
    Steps.played faithful program trivial
  have followed : (program.play (answeringWire replyTo) .empty).2.2 =
      .ofEvents (program.play (answeringWire replyTo) .empty).1 :=
    steps.view_eq fun _ _ _ same => same
  rw [← followed]
  exact (program.play_keeps (answeredBy_step accepts) (fun _ none => by cases none)).1

theorem AnsweredBy.responses {log : WireLog} (so : AnsweredBy replyTo log) :
    ∀ answer ∈ log.responses, answer.2 = replyTo answer.1 := by
  intro answer member
  obtain ⟨⟨request, result⟩, answered, same⟩ := List.mem_filterMap.mp member
  rw [so _ answered] at same
  cases same
  rfl

theorem AnsweredBy.not_gaveUp {log : WireLog} (so : AnsweredBy replyTo log) : ¬log.GaveUp := by
  intro gaveUp
  obtain ⟨request, failure, last⟩ := gaveUp
  have answered := so _ (List.mem_of_getLast? last)
  cases answered

end answering

/-- Two forex contracts, of which the second is sold meanwhile, and one on an index. -/
def twoOfThree : Request → Value
  | .portfolio => .object [("portfolio", .object [("contracts", .array [
      .object [("contract_id", .number (.posInt 77)), ("underlying_symbol", .string "frxEURUSD"),
        ("contract_type", .string "MULTUP")],
      .object [("contract_id", .number (.posInt 78)), ("underlying_symbol", .string "R_100"),
        ("contract_type", .string "MULTUP")],
      .object [("contract_id", .number (.posInt 79)), ("underlying_symbol", .string "frxGBPUSD"),
        ("contract_type", .string "MULTDOWN")]])])]
  | .proposalOpenContract contractId => .object [("proposal_open_contract", .object [
      ("is_sold", .number (.posInt (if contractId = 79 then 1 else 0))),
      ("buy_price", .string "12.5"), ("bid_price", .string "12.5"), ("profit", .string "0"),
      ("purchase_time", .number (.posInt 1700000000))])]
  | _ => .object []

/-- The two amounts that occur there. -/
def parseAmount (text : String) : Option Decimal :=
  if text = "12.5" then some 12.5 else if text = "0" then some 0 else none

theorem twoOfThree_accepted (request : Request) :
    ofResponse (twoOfThree request) = .ok (twoOfThree request) := by
  cases request <;> rfl

theorem twoOfThree_wellFormed (request : Request) :
    WellFormed parseAmount some (request, twoOfThree request) := by
  cases request with
  | portfolio =>
    refine ⟨_, rfl, ?_⟩
    simp [portfolioContract, Value.get, Value.asU64]
  | proposalOpenContract contractId =>
    refine ⟨_, rfl, fun _ => ?_⟩
    constructor
    · simp [Value.get, Value.asStr, parseAmount]
    · exact ⟨1700000000, rfl, rfl⟩
  | _ => trivial

theorem twoOfThree_listed : ∃ positions,
    ((listOpenPositions parseAmount some).play (answeringWire twoOfThree) .empty).2.1 =
      .done positions ∧
    ListsOpened positions (.ofEvents
      ((listOpenPositions parseAmount some).play (answeringWire twoOfThree) .empty).1) := by
  have answered := answeredBy_played twoOfThree_accepted (listOpenPositions parseAmount some)
  rcases listed_as_opened parseAmount some _ _ (Program.play_trace (answeringWire twoOfThree) _ .empty)
    (Program.play_finished _ _ _) with listed | ⟨_, gaveUp | ⟨answer, member, malformed⟩⟩
  · exact listed
  · exact absurd gaveUp answered.not_gaveUp
  · have same : answer = (answer.1, twoOfThree answer.1) :=
      Prod.ext rfl (answered.responses answer member)
    rw [same] at malformed
    exact absurd (twoOfThree_wellFormed answer.1) malformed

end Oboobot.Broker
