import SignalNet.Proofs.Preset.BestEffort
import SignalNet.Proofs.Variable.Layout

/-!
Contract: which channel gets which item of a list.

A list literal has one item per channel. An argument of a native proc makes as many channels as
the list has items, and presets that are applied without a failure have a channel for every item.
The initial literal of a declaration only ever meets one channel, and what is written through a
subnet only meets the channels that are there already: in both cases the items behind them are
left out without a word. That is all that is lost: an item whose channel is there is assigned.

Owns: what it means that a channel was assigned from an item (`Variable.HoldsItem`,
`Store.HoldsItem`), one law for each of the four ways of a list into a network, and all of them
together (`list_items_assigned`).
-/

set_option autoImplicit false

namespace SignalNet

/-! ## Banks -/

namespace Variable

/-- A channel of a variable holds the value that an item of a literal stands for. -/
def HoldsItem (entry : Variable) (ch : Nat) (item : Literal) : Prop :=
  ∃ value, item.toValue entry.type = .ok value ∧ entry.channels[ch]? = some value

/-- A completed assignment has converted the item of every channel that is there. -/
theorem getElem?_assignFrom {type : ValueType} {literal : Literal} {ch : Nat}
    {channels : List Value} (completed : (assignFrom type literal ch channels).2 = .ok ())
    {offset : Nat} (below : offset < channels.length) {item : Literal}
    (given : literal.channel? (ch + offset) = some item) :
    ∃ value, item.toValue type = .ok value ∧
      (assignFrom type literal ch channels).1[offset]? = some value := by
  fun_induction assignFrom type literal ch channels generalizing offset with
  | case1 ch => cases below
  | case2 ch old rest absent stored outcome result inductionHypothesis =>
      cases offset with
      | zero => cases absent.symm.trans given
      | succ offset =>
          rw [result] at inductionHypothesis
          exact inductionHypothesis completed (Nat.lt_of_succ_lt_succ below)
            (by rwa [Nat.add_assoc, Nat.add_comm 1])
  | case3 ch old rest other found fault refused => cases completed
  | case4 ch old rest other found value converted stored outcome result inductionHypothesis =>
      cases offset with
      | zero =>
          obtain rfl : other = item := Option.some.inj (found.symm.trans given)
          exact ⟨value, converted, rfl⟩
      | succ offset =>
          rw [result] at inductionHypothesis
          exact inductionHypothesis completed (Nat.lt_of_succ_lt_succ below)
            (by rwa [Nat.add_assoc, Nat.add_comm 1])

theorem holdsItem_of_assignLiteral {entry : Variable} {literal : Literal}
    (completed : (entry.assignLiteral literal).2 = .ok ()) {ch : Nat}
    (below : ch < entry.channels.length) {item : Literal}
    (given : literal.channel? ch = some item) : (entry.assignLiteral literal).1.HoldsItem ch item :=
  getElem?_assignFrom completed below ((Nat.zero_add ch).symm ▸ given)

/-- A declaration makes one channel, and only the first item of a list is assigned. -/
theorem holdsItem_of_ofDeclaration {declaration : Declaration} {items : List Literal}
    {entry : Variable} (initial : declaration.initial = some (.list items))
    (made : ofDeclaration declaration = .ok entry) :
    entry.channels.length = 1 ∧ ∀ item, items[0]? = some item → entry.HoldsItem 0 item := by
  unfold ofDeclaration at made
  rw [initial] at made
  dsimp only at made
  obtain ⟨⟨⟩, completed, rfl⟩ := map_eq_ok.mp made
  exact ⟨length_assignLiteral _ _, fun item given =>
    holdsItem_of_assignLiteral completed Nat.one_pos given⟩

end Variable

/-- An argument makes a channel for every item, at least one, and assigns every item. -/
theorem Bank.holdsItem_of_applyLiteral {bank stored : Bank} {var : Nat} {entry : Variable}
    {items : List Literal} (found : bank.vars[var]? = some entry)
    (applied : bank.applyLiteral var (.list items) = (stored, .ok ())) :
    ∃ changed, stored.vars[var]? = some changed ∧
      changed.channels.length = max items.length 1 ∧
      ∀ i item, items[i]? = some item → changed.HoldsItem i item := by
  unfold applyLiteral at applied
  rw [found] at applied
  dsimp only [Literal.listLength?] at applied
  obtain ⟨rfl, completed⟩ := Prod.mk.inj applied
  have within : var < bank.vars.length := (List.getElem?_eq_some_iff.mp found).1
  refine ⟨_, List.getElem?_set_self within, ?_, fun i item given => ?_⟩
  · rw [Variable.length_assignLiteral, Variable.length_resize]
  · have below : i < items.length := (List.getElem?_eq_some_iff.mp given).1
    refine Variable.holdsItem_of_assignLiteral completed ?_ given
    rw [Variable.length_resize]
    omega

/-! ## Subnets -/

variable {P : Type}

/-- A channel of a native variable holds the value that an item of a literal stands for in a
type, as the variable has it. -/
def Store.HoldsItem (store : Store P) (terminal : Terminal) (ch : Nat) (type : ValueType)
    (item : Literal) : Prop :=
  ∃ value held, item.toValue type = .ok value ∧ store.place? terminal ch = some held ∧
    value.convert held.type = .ok held

namespace Build

open Store

variable [Processor P] {proc : Proc P} {var : Nat} {literal : Literal} {channels : List Nat}
  {store after : Store P}

/-- Channels that a literal has nothing for, or that are not asked for, stay as they are. -/
theorem place?_writeLiteral_outside
    (completed : writeLiteral proc var literal channels store = .ok after) {ch : Nat}
    (outside : ch ∈ channels → literal.channel? ch = none) (terminal : Terminal) :
    after.place? terminal ch = store.place? terminal ch := by
  fun_induction writeLiteral proc var literal channels store with
  | case1 store =>
      cases completed
      rfl
  | case2 first rest store missing inductionHypothesis =>
      exact inductionHypothesis completed fun later => outside (List.mem_cons_of_mem first later)
  | case3 first rest store item found type refused fault => cases completed
  | case4 first rest store item found type refused value converted written fault result =>
      cases completed
  | case5 first rest store item found type value converted written wrote result
      inductionHypothesis =>
      have different : ch ≠ first := by
        rintro rfl
        cases found.symm.trans (outside List.mem_cons_self)
      have untouched :=
        place?_write_channel false value (proc.terminals var) store terminal different
      rw [result] at untouched
      rw [← untouched]
      exact inductionHypothesis completed fun later => outside (List.mem_cons_of_mem first later)

/-- A completed write has assigned the item of every channel that is asked for to every place
that is there. -/
theorem holdsItem_of_writeLiteral
    (completed : writeLiteral proc var literal channels store = .ok after) {ch : Nat}
    (asked : ch ∈ channels) {item : Literal} (given : literal.channel? ch = some item)
    {terminal : Terminal} (member : terminal ∈ proc.terminals var)
    (present : (store.place? terminal ch).isSome = true) :
    after.HoldsItem terminal ch (((proc.declaration? var).map (·.type)).getD .double) item := by
  fun_induction writeLiteral proc var literal channels store with
  | case1 store => cases asked
  | case2 first rest store missing inductionHypothesis =>
      rcases List.mem_cons.mp asked with rfl | later
      · cases missing.symm.trans given
      · exact inductionHypothesis completed later present
  | case3 first rest store item found type refused fault => cases completed
  | case4 first rest store item found type refused value converted written fault result =>
      cases completed
  | case5 first rest store other found type value converted written wrote result
      inductionHypothesis =>
      have kept := (written_write false first value (proc.terminals var) store).place?_type
        terminal ch
      rw [result] at kept
      by_cases again : ch ∈ rest
      · refine inductionHypothesis completed again ?_
        rw [← Option.isSome_map, kept, Option.isSome_map]
        exact present
      · obtain rfl : ch = first := (List.mem_cons.mp asked).resolve_right again
        obtain rfl : other = item := Option.some.inj (found.symm.trans given)
        obtain ⟨place, there⟩ := Option.isSome_iff_exists.mp present
        obtain ⟨held, heldThere, isHeld⟩ := place?_write result member there
        refine ⟨value, held, converted, ?_, ?_⟩
        · rw [place?_writeLiteral_outside completed (fun later => absurd later again), heldThere]
        · rw [Value.type_of_convert isHeld]
          exact isHeld

/-- What is written through a subnet makes no channels. The items of a list are assigned where
there is a channel for them, and nothing else is changed. -/
theorem holdsItem_of_writeVariable {items : List Literal}
    (completed : writeVariable proc var (.list items) store = .ok after) :
    after.channelCount (proc.terminals var) = store.channelCount (proc.terminals var) ∧
      (∀ i < store.channelCount (proc.terminals var), ∀ item, items[i]? = some item →
        ∀ terminal ∈ proc.terminals var, (store.place? terminal i).isSome = true →
          after.HoldsItem terminal i (((proc.declaration? var).map (·.type)).getD .double) item) ∧
      ∀ i, store.channelCount (proc.terminals var) ≤ i ∨ items.length ≤ i →
        ∀ terminal, after.place? terminal i = store.place? terminal i := by
  refine ⟨?_, fun i below item given terminal member present => ?_, fun i beyond terminal => ?_⟩
  · exact channelCount_congr (written_writeLiteral completed).shape_eq _
  · exact holdsItem_of_writeLiteral completed (List.mem_range.mpr below) given member present
  · refine place?_writeLiteral_outside completed (fun asked => ?_) terminal
    have below := List.mem_range.mp asked
    exact List.getElem?_eq_none (beyond.resolve_left (Nat.not_le_of_lt below))

end Build

/-! ## Presets -/

namespace Blend

theorem mem_mentionedLabels {bodies : WeightedBodies} {values : Option Assignments × Float}
    (listed : values ∈ bodies) {label : String} {literal : Literal}
    (given : values.1.bind (·.get? label) = some literal) : label ∈ mentionedLabels bodies := by
  obtain ⟨assignments, isBody, found⟩ := Option.bind_eq_some_iff.mp given
  rw [mentionedLabels, List.mem_eraseDups, List.mem_flatMap]
  refine ⟨assignments, List.mem_filterMap.mpr ⟨values, listed, isBody⟩, ?_⟩
  obtain ⟨entry, isEntry, -⟩ := Option.map_eq_some_iff.mp found
  have named : entry.1 = label := by simpa using List.find?_some isEntry
  exact List.mem_map.mpr ⟨entry, List.mem_of_find?_eq_some isEntry, named⟩

/-- The field that presets have for a channel of a variable of a proc. -/
def fieldOf (site : Site P) (weights : Weights) (label : String) (var ch : Nat) : Field :=
  ⟨site.proc.label, label, ((site.proc.declaration? var).map (·.type)).getD .double,
    site.proc.terminals var, bodies site weights, ch⟩

/-- A field whose blend converts is stored in all its places. -/
theorem Field.Obeys.stored_of_converts {field : Field} {before after : Store P}
    {fault? : Option ValueError} (obeys : field.Obeys before after fault?)
    (mentioned : field.mentioned = true) {expected : Value}
    (converts : field.Converts before expected) :
    ∃ held, field.Converts before held ∧
      ∀ terminal ∈ field.terminals, after.place? terminal field.channel = some held := by
  cases obeys with
  | skipped unmentioned => cases unmentioned.symm.trans mentioned
  | stored _ isHeld everywhere _ => exact ⟨_, isHeld, everywhere⟩
  | refused _ never => exact absurd converts (never expected)

end Blend

/-- Presets that were applied without a failure have assigned every item of every list: there is
a channel for it, and the channel was stored from a blend that the item goes into. -/
theorem Network.Applied.items_stored [Processor P] {network after : Network P}
    {weights : Weights} {replica : Option Nat} {name : String}
    (applied : network.Applied weights replica name after (.ok ())) {site : Site P}
    (listed : site ∈ network.level.sites) (meant : Blend.targets replica site = true)
    {values : Option Assignments × Float} (isBody : values ∈ Blend.bodies site weights)
    {label : String} {items : List Literal}
    (given : values.1.bind (·.get? label) = some (.list items)) {i : Nat} {item : Literal}
    (isItem : items[i]? = some item) :
    ∃ var earlier later held, site.proc.variableIndex? label = some var ∧
      let field := Blend.fieldOf site weights label var i
      let now := network.storeAfter earlier
      i < network.store.channelCount field.terminals ∧
        Blend.literal? values.1 label i = some item ∧
        network.presetSteps weights replica = earlier ++ .blend field :: later ∧
        field.Converts now held ∧
        ∀ terminal ∈ field.terminals, (field.apply now).1.place? terminal i = some held := by
  have mentioned := Blend.mem_mentionedLabels isBody given
  obtain ⟨accepts, converts⟩ := applied.succeeds.mp rfl
  obtain ⟨-, settable, short⟩ := accepts site listed meant
  have accepted := settable label mentioned
  obtain ⟨var, indexed⟩ : ∃ var, site.proc.variableIndex? label = some var := by
    refine Option.ne_none_iff_exists'.mp fun absent => ?_
    cases (Proc.rejects_of_none absent).symm.trans accepted
  have isLiteral : Blend.literal? values.1 label i = some item := by
    rw [Blend.literal?, given]
    exact isItem
  have below : i < network.store.channelCount (site.proc.terminals var) := by
    refine Nat.lt_of_lt_of_le (List.getElem?_eq_some_iff.mp isItem).1 ?_
    exact short label mentioned var indexed values isBody items.length (by rw [given]; rfl)
  have isStep :=
    applied.complete site listed meant label mentioned var indexed accepted i below
  obtain ⟨earlier, later, split⟩ := List.append_of_mem isStep
  have isMentioned : (Blend.fieldOf site weights label var i).mentioned = true :=
    List.any_eq_true.mpr ⟨values, isBody, Option.isSome_iff_exists.mpr ⟨item, isLiteral⟩⟩
  obtain ⟨expected, isExpected⟩ := converts earlier _ later split isMentioned
  obtain ⟨held, isHeld, everywhere⟩ :=
    (applied.obeys earlier _ later split).stored_of_converts isMentioned isExpected
  exact ⟨var, earlier, later, held, indexed, below, isLiteral, split, isHeld, everywhere⟩

/-! ## All ways of a list into a network -/

namespace Overlong

/-- Two items. -/
def items : List Literal := [.float 1, .float 2]

/-- A declaration with an initial list. -/
def declaration : Declaration :=
  ⟨"value", "", some .double, .empty, some (.list items), false, none⟩

/-- A class of constants, one whose initial value is a list, and a subnet around a constant. -/
def classes : ClassSet Builtin :=
  let out : Declaration := ⟨"out", "", some .double, .empty, none, false, none⟩
  let inner : Template := ⟨[⟨"inner", "number", .empty, [], none, none, none⟩], []⟩
  ⟨[⟨"number", [{ declaration with initial := none }, out], [], .plain Builtin.numberClass, none⟩,
    ⟨"listed", [declaration, out], [], .plain Builtin.numberClass, none⟩,
    ⟨"group", [⟨"level", "", some .double, .empty, none, false, some ⟨"inner", "value"⟩⟩],
      [], .subnet inner, none⟩]⟩

/-- The list as an initial value, as an argument, and as an argument of a subnet; and a preset that
gives it to the constant with the argument. -/
def template : Template :=
  ⟨[⟨"initial", "listed", .empty, [], none, none, none⟩,
    ⟨"given", "number", ⟨[("value", .list items)]⟩, [], none, none, none⟩,
    ⟨"through", "group", ⟨[("level", .list items)]⟩, [], none, none, none⟩],
    [⟨"again", [("given", .inline ⟨[("value", .list items)]⟩)]⟩]⟩

/-- A subnet around the first cell of a store. -/
def shell : Proc Builtin :=
  let head (label : String) : ProcHead Builtin :=
    ⟨label, none, ⟨label, [{ declaration with initial := none }], [], .plain Builtin.numberClass,
      none⟩, [], none⟩
  .subnet (head "shell") [.native (head "core") 0] [0] [] [[(0, 0)]]

/-- One cell with a variable of one channel. -/
def store : Store Builtin :=
  [⟨.number 0 1, ⟨[⟨"value", .double, .empty, [.double 0]⟩]⟩⟩]

theorem lawful : classes.Lawful := by
  intro label description native known kind
  have member := List.mem_of_find?_eq_some known
  simp only [classes, List.mem_cons, List.not_mem_nil, or_false] at member
  rcases member with rfl | rfl | rfl
  · cases kind
    exact Builtin.typed_numberClass
  · cases kind
    exact Builtin.typed_numberClass
  · cases kind

end Overlong

/-- What becomes of the items of a list literal, wherever no failure is reported.

The initial literal of a declaration meets one channel, which is assigned from the first item. As
an argument of a native proc, a list makes as many channels as it has items, at least one, and
each is assigned from its item. Through a subnet, as its initial literal or as an argument, a
list meets the channels that are there: these are assigned from their items, and there are no
more of them afterwards. In presets, in every state of every network that is built over native
classes that keep banks typed and in shape, there is a channel for every item, and it is stored
from a blend that the item goes into. -/
theorem list_items_assigned [Processor P] (items : List Literal) :
    (∀ declaration entry, declaration.initial = some (.list items) →
      Variable.ofDeclaration declaration = .ok entry →
        entry.channels.length = 1 ∧ ∀ item, items[0]? = some item → entry.HoldsItem 0 item) ∧
    (∀ (bank : Bank) var entry stored, bank.vars[var]? = some entry →
      bank.applyLiteral var (.list items) = (stored, .ok ()) →
        ∃ changed, stored.vars[var]? = some changed ∧
          changed.channels.length = max items.length 1 ∧
          ∀ i item, items[i]? = some item → changed.HoldsItem i item) ∧
    (∀ (proc : Proc P) var store after,
      Build.writeVariable proc var (.list items) store = .ok after →
        let count := store.channelCount (proc.terminals var)
        let type := ((proc.declaration? var).map (·.type)).getD .double
        after.channelCount (proc.terminals var) = count ∧
          (∀ i < count, ∀ item, items[i]? = some item → ∀ terminal ∈ proc.terminals var,
            (store.place? terminal i).isSome = true → after.HoldsItem terminal i type item) ∧
          ∀ i, count ≤ i ∨ items.length ≤ i →
            ∀ terminal, after.place? terminal i = store.place? terminal i) ∧
    ∀ [TypedProcessor P] [SteadyProcessor P] (classes : ClassSet P) template timing devices network,
      classes.Lawful → Network.build classes template timing devices = .ok network →
        ∀ operations weights replica name after,
          let reached := network.performAll operations
          reached.applyWeights weights replica name = (after, .ok ()) →
            ∀ site ∈ reached.level.sites, Blend.targets replica site = true →
              ∀ values ∈ Blend.bodies site weights, ∀ label,
                values.1.bind (·.get? label) = some (.list items) →
                  ∀ i item, items[i]? = some item →
                    ∃ var earlier later held, site.proc.variableIndex? label = some var ∧
                      let field := Blend.fieldOf site weights label var i
                      let now := reached.storeAfter earlier
                      i < reached.store.channelCount field.terminals ∧
                        Blend.literal? values.1 label i = some item ∧
                        reached.presetSteps weights replica =
                          earlier ++ .blend field :: later ∧
                        field.Converts now held ∧
                        ∀ terminal ∈ field.terminals,
                          (field.apply now).1.place? terminal i = some held := by
  refine ⟨fun _ _ => Variable.holdsItem_of_ofDeclaration,
    fun _ _ _ _ => Bank.holdsItem_of_applyLiteral, fun _ _ _ _ => Build.holdsItem_of_writeVariable,
    ?_⟩
  intro _ _ classes template timing devices network lawful built operations weights replica name
    after reached isApplied site listed meant values isBody label given i item isItem
  have notRefused : Blend.isRefusal (reached.applyWeights weights replica name).2 = false := by
    rw [isApplied]
    rfl
  have applied := reached.applied_of_not_refused
    (Blend.fits_of_mem_steps lawful built operations weights replica) notRefused
  rw [isApplied] at applied
  exact applied.items_stored listed meant isBody given isItem

/-- The list in each of its four ways. -/
theorem overlong_items_assigned :
    (∃ entry, Variable.ofDeclaration Overlong.declaration = .ok entry ∧
        entry.channels.length = 1 ∧ entry.HoldsItem 0 (.float 1)) ∧
      (∃ bank stored : Bank, bank.applyLiteral 0 (.list Overlong.items) = (stored, .ok ()) ∧
        ∃ changed, stored.vars[0]? = some changed ∧ changed.channels.length = 2 ∧
          changed.HoldsItem 1 (.float 2)) ∧
      (∃ after,
        Build.writeVariable Overlong.shell 0 (.list Overlong.items) Overlong.store = .ok after ∧
          after.HoldsItem ⟨0, 0⟩ 0 .double (.float 1)) ∧
      ∃ network : Network Builtin,
        Network.build Overlong.classes Overlong.template .standard [] = .ok network ∧
          ∃ after, network.applyWeights [("again", 1)] none "again" = (after, .ok ()) ∧
            ∃ site ∈ network.level.sites, ∃ var earlier held,
              let field := Blend.fieldOf site [("again", 1)] "value" var 1
              site.proc.label = "given" ∧ field.Converts (network.storeAfter earlier) held ∧
                ∀ terminal ∈ field.terminals,
                  (field.apply (network.storeAfter earlier)).1.place? terminal 1 = some held := by
  obtain ⟨initials, arguments, subnets, presets⟩ :=
    list_items_assigned (P := Builtin) Overlong.items
  refine ⟨?_, ?_, ?_, ?_⟩
  · obtain ⟨single, first⟩ := initials Overlong.declaration _ rfl rfl
    exact ⟨_, rfl, single, first _ rfl⟩
  · have sized : (⟨[⟨"value", .double, .empty, [.double 0]⟩]⟩ : Bank).applyLiteral 0
        (.list Overlong.items) = (_, .ok ()) := rfl
    obtain ⟨changed, there, count, each⟩ := arguments _ 0 _ _ rfl sized
    exact ⟨_, _, sized, changed, there, count, each 1 _ rfl⟩
  · have wrote : Build.writeVariable Overlong.shell 0 (.list Overlong.items) Overlong.store =
        .ok _ := rfl
    obtain ⟨-, assigned, -⟩ := subnets Overlong.shell 0 Overlong.store _ wrote
    exact ⟨_, wrote, assigned 0 Nat.one_pos _ rfl ⟨0, 0⟩ (List.mem_singleton_self _) rfl⟩
  · have built : Network.build Overlong.classes Overlong.template .standard [] = .ok _ := rfl
    obtain ⟨var, earlier, -, held, -, -, -, -, converts, everywhere⟩ :=
      presets _ _ _ _ _ Overlong.lawful built [] [("again", 1)] none "again" _ rfl _
        (List.mem_of_getElem? (i := 1) rfl) rfl _ (List.mem_singleton_self _) "value" rfl 1 _ rfl
    exact ⟨_, built, _, rfl, _, List.mem_of_getElem? (i := 1) rfl, var, earlier, held, rfl,
      converts, everywhere⟩

/-- A network is built without an error from lists of two items, of which the second one is lost
as an initial value and as an argument of a subnet, though not as an argument of a constant. -/
theorem second_item_lost :
    ∃ network : Network Builtin,
      Network.build Overlong.classes Overlong.template .standard [] = .ok network ∧
        Overlong.items.length = 2 ∧
        network.channelCount "initial" "value" = .ok 1 ∧
        network.channelCount "through" "level" = .ok 1 ∧
        network.channelCount "given" "value" = .ok 2 ∧
        network.value "initial" "value" 1 =
          .error (.channelOutOfRange "initial" "value" 1 1) := by
  have built : Network.build Overlong.classes Overlong.template .standard [] = .ok _ := rfl
  exact ⟨_, built, rfl, rfl, rfl, rfl, rfl⟩

end SignalNet
