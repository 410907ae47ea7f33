import SignalNet.Proofs.Network.Layout
import SignalNet.Proofs.Network.Survival
import SignalNet.Proofs.Network.TypeSoundness
import SignalNet.Proofs.Number.WholeNumbers
import SignalNet.Proofs.Schema.DeclarationOrder

/-!
Contract: how many channels a sine tone sounds on.

The class of sine tones reads its channel count when it makes a proc, and gives the output a
buffer with that many channels, at least one. The count is then what the class or the proc itself
says. Presets that are asked for at construction are applied to procs that are made, so they can
change the count that the variable holds, and the buffer stays.

Owns: the class of sine tones in a class set that has the built-in classes
(`Catalogue.get?_sineTone`), what its constructor is given and leaves (`Build.Constructed.tone`),
and the channels of every sine tone in a network (`tone_channels_as_constructed`).
-/

set_option autoImplicit false

namespace SignalNet

/-! ## The class -/

/-- The class of sine tones, as it is read from its description. -/
def Builtin.toneDescription : ClassDescription Builtin :=
  ⟨"sine_tone",
    [⟨"freq", "Frequency in Hz.", some .double, .empty, some (.float 440), false, none⟩,
      ⟨"gain", "Linear output gain.", some .float, .empty, some (.float 1), false, none⟩,
      ⟨"ch_cnt", "Output channel count.", some .uint, .single .init, some (.int 1), false, none⟩,
      ⟨"out", "Generated audio.", some .audio, .empty, none, false, none⟩],
    [⟨"low", ⟨[("freq", .float 220)]⟩⟩, ⟨"high", ⟨[("freq", .float 880), ("gain", .float 0.5)]⟩⟩],
    .plain Builtin.sineToneClass, none⟩

namespace Catalogue

theorem readClass_sineTone :
    (empty Registry.builtin).readClass .plain Descriptions.sineTone.1 Descriptions.sineTone.2 =
      .ok Builtin.toneDescription := rfl

/-- Once the built-in classes were read, whatever was read before or is read later, sine tones are
of their class. -/
theorem get?_sineTone {before after : List (List (String × Toml))}
    (loaded :
      (((empty Registry.builtin).addTables before).addTable Descriptions.builtin).2 = .ok ())
    {classes : ClassSet Builtin}
    (finished : ((empty Registry.builtin).addTables
      (before ++ Descriptions.builtin :: after)).finish = .ok classes) :
    classes.get? "sine_tone" = some Builtin.toneDescription := by
  let start := (empty Registry.builtin).addTables before
  have inStart := (wellFormed_addTables Registry.builtin before).2
  have added : (tableItems Descriptions.builtin).foldlM addItem start =
      .ok (start.addTable Descriptions.builtin).1 :=
    readTable_eq_ok.mp (readTable_eq_ok_iff.mpr (Prod.ext rfl loaded))
  have listed : .entry .plain Descriptions.sineTone.1 Descriptions.sineTone.2 ∈
      tableItems Descriptions.builtin := List.mem_of_getElem? (i := 2) rfl
  obtain ⟨description, read, member⟩ := exists_plain_of_foldlM_addItem added listed
  have sameRegistry : start.registry = (empty Registry.builtin).registry := inStart
  rw [readClass_congr sameRegistry, readClass_sineTone] at read
  obtain rfl := Except.ok.inj read
  -- tables that are read later add classes, and drop none
  have isThere : Builtin.toneDescription ∈
      ((empty Registry.builtin).addTables (before ++ Descriptions.builtin :: after)).plain := by
    rw [addTables, List.foldl_append, List.foldl_cons]
    refine addTables_keeps
      (motive := fun catalogue => Builtin.toneDescription ∈ catalogue.plain) ?_ member
    intro earlier kind label value later _ isEarlier here
    obtain ⟨-, -, _, -, rfl⟩ := addClass_eq_ok.mp here
    cases kind with
    | plain => exact List.mem_append_left _ isEarlier
    | subnet => exact isEarlier
  have wellFormed :=
    (wellFormed_addTables Registry.builtin (before ++ Descriptions.builtin :: after)).1
  obtain ⟨resolved, -⟩ := wellFormed.finish_eq_ok.mp finished
  exact (wellFormed.get?_resolved resolved).mpr ⟨.plain isThere, rfl⟩

end Catalogue

/-! ## The constructor -/

/-- Audio is allocated for a variable that holds audio, and all other variables stay as they
are. -/
theorem Bank.get?_allocateAudio {bank : Bank} {var : Nat} {block : AudioBlock}
    (holds : bank.get? var 0 = some (.audio block)) (channels frames other ch : Nat) :
    (bank.allocateAudio var channels frames).get? other ch =
      if var = other ∧ 0 = ch then some (.audio (.silent channels frames))
      else bank.get? other ch := by
  have isAudio : bank.audio? var = some block := by rw [audio?, holds]
  rw [allocateAudio, isAudio]
  dsimp only
  rw [setAudio, get?_set]
  split
  · rename_i same
    obtain ⟨rfl, rfl⟩ := same
    rw [holds, Option.map_some]
  · rfl

/-- A new sine tone has a block for its channel count, at least for one channel. -/
theorem Builtin.create_sineTone {context : CreateContext} {bank left : Bank}
    {processor : Builtin} {counter out : Nat}
    (created : sineToneClass.create context bank = .ok (processor, left))
    (isCounter : bank.indexOf? "ch_cnt" = some counter) (isOut : bank.indexOf? "out" = some out) :
    left = bank.allocateAudio out (max (Number.truncatedCount (bank.number counter 0)) 1)
      context.timing.framesPerCycle := by
  obtain ⟨count, foundCount, created⟩ := bind_eq_ok.mp created
  obtain ⟨block, foundOut, created⟩ := bind_eq_ok.mp created
  obtain ⟨frequency, -, created⟩ := bind_eq_ok.mp created
  obtain ⟨gain, -, created⟩ := bind_eq_ok.mp created
  rw [Bank.require, isCounter] at foundCount
  rw [Bank.require, isOut] at foundOut
  cases foundCount
  cases foundOut
  cases created
  rfl

namespace Build

variable {P : Type} {environment : Environment P} {spec : ProcSpec}
  {description : ClassDescription P} {given left : Bank}

theorem Constructed.laid (constructed : Constructed environment spec description given left) :
    given.Laid description.labels := by
  obtain ⟨-, -, start, -, -, -, declared, applied, -⟩ := constructed
  exact (Bank.laid_ofDeclarations declared).edited (edited_applyArguments applied)

/-- A class is given a value of the declared type for each of its variables. -/
theorem Constructed.exists_given
    (constructed : Constructed environment spec description given left) (var : Nat)
    {declaration : Declaration} (listed : description.vars[var]? = some declaration) :
    ∃ value, given.get? var 0 = some value ∧ value.type = declaration.type := by
  have below : var < description.labels.length := by
    rw [ClassDescription.labels, List.length_map]
    exact (List.getElem?_eq_some_iff.mp listed).1
  obtain ⟨value, there⟩ := constructed.laid.exists_first below
  refine ⟨value, there, ?_⟩
  have isType := constructed.typed.type_of_get? there
  rw [ClassDescription.types, List.getElem?_map, listed] at isType
  exact (Option.some.inj isType).symm

/-- What the class of sine tones is given and leaves: the count as it is, and a block with as many
channels, at least one. -/
theorem Constructed.tone {environment : Environment Builtin}
    (constructed : Constructed environment spec Builtin.toneDescription given left) :
    ∃ count, given.get? 2 0 = some (.uint count) ∧ left.get? 2 0 = some (.uint count) ∧
      left.get? 3 0 =
        some (.audio (.silent (max 1 count.toNat) environment.timing.framesPerCycle)) := by
  obtain ⟨counter, isCounter, isNumber⟩ := constructed.exists_given 2 rfl
  obtain ⟨out, isOut, isAudio⟩ := constructed.exists_given 3 rfl
  obtain ⟨count, rfl⟩ : ∃ count, counter = .uint count := by
    cases counter <;> cases isNumber
    exact ⟨_, rfl⟩
  obtain ⟨block, rfl⟩ : ∃ block, out = .audio block := by
    cases out <;> cases isAudio
    exact ⟨_, rfl⟩
  have allocated : left = given.allocateAudio 3
      (max (Number.truncatedCount (given.number 2 0)) 1) environment.timing.framesPerCycle := by
    obtain ⟨native, device, start, processor, isPlain, -, -, -, created⟩ := id constructed
    cases isPlain
    have indexed : ∀ label, given.indexOf? label =
        Builtin.toneDescription.variableIndex? label := indexOf?_of_laid constructed.laid
    exact Builtin.create_sineTone created (indexed "ch_cnt") (indexed "out")
  have exact : Number.truncatedCount (given.number 2 0) = count.toNat := by
    rw [Bank.number, isCounter]
    exact Number.truncatedCount_ofNat (count.toNat_lt.trans (by decide))
  rw [exact, Nat.max_comm] at allocated
  refine ⟨count, isCounter, ?_, ?_⟩
  · rw [allocated, Bank.get?_allocateAudio isOut, if_neg (by decide), isCounter]
  · rw [allocated, Bank.get?_allocateAudio isOut, if_pos (by decide)]

end Build

/-! ## Networks -/

/-- Over the class set that any tables finish with, if the built-in classes were read among them,
every level in a built network has a template, and every sine tone there has a variable for the
count, which is marked as one for construction, and one for the output. If no subnet around it
fills the count, then the class was given the count that it declares, or the argument for it, and
the output is a block with as many channels, at least one. The variable holds this count, unless a
preset mentions it that is asked for at construction: such presets are applied to procs that are
made, so they change the variable and not the block. -/
theorem tone_channels_as_constructed (before after : List (List (String × Toml)))
    (loaded : (((Catalogue.empty Registry.builtin).addTables before).addTable
      Descriptions.builtin).2 = .ok ())
    {classes : ClassSet Builtin}
    (finished : ((Catalogue.empty Registry.builtin).addTables
      (before ++ Descriptions.builtin :: after)).finish = .ok classes)
    {template : Template} {timing : Timing} {devices : List Device} {network : Network Builtin}
    (built : Network.build classes template timing devices = .ok network) :
    (∀ inside, network.level.Within inside →
        ∃ own number, Level.Unfolds template none network.level own number inside) ∧
      ∀ own number inside, Level.Unfolds template none network.level own number inside →
        ∀ head slot, .native head slot ∈ inside.procs → head.description.label = "sine_tone" →
          ∃ counter out declaration,
            head.description.variableIndex? "ch_cnt" = some counter ∧
            head.description.variableIndex? "out" = some out ∧
            head.description.vars[counter]? = some declaration ∧ declaration.has .init = true ∧
              (¬ network.level.Somewhere (·.Fills · ⟨slot, counter⟩) template none →
                ∃ spec given left count block, own.proc? head.label = some spec ∧
                  Build.Constructed ⟨classes, timing, devices⟩ spec head.description given left ∧
                    given.get? counter 0 = some (.uint count) ∧
                    network.store.place? ⟨slot, out⟩ 0 = some (.audio block) ∧
                    block.channels = max 1 count.toNat ∧
                      (¬ network.level.Somewhere (·.Mentions · ⟨slot, counter⟩) template none →
                        network.store.place? ⟨slot, counter⟩ 0 = some (.uint count))) := by
  have nested := (Build.buildNested_of_build built).1
  refine ⟨fun inside within => Build.exists_unfolds_of_buildNested nested within, ?_⟩
  intro own number inside unfolds head slot member isTone
  obtain ⟨className, known⟩ : ∃ className, classes.get? className = some head.description :=
    (Build.linked_of_build (coherent_of_finish finished) built unfolds.within).known _ member
  obtain ⟨label, replica, description, inputs, device⟩ := head
  obtain rfl : Builtin.toneDescription = description := by
    rw [← ClassSet.label_of_get? known, isTone, Catalogue.get?_sineTone loaded finished] at known
    exact Option.some.inj known
  refine ⟨2, 3, _, rfl, rfl, rfl, rfl, fun unfilled => ?_⟩
  obtain ⟨spec, given, left, isSpec, constructed, audio, others⟩ :=
    Build.survives_of_buildNested _ _ _ _ _ _ _ nested own number inside unfolds _ slot member
  obtain ⟨count, isGiven, isLeft, isBlock⟩ := constructed.tone
  refine ⟨spec, given, left, count, _, isSpec, constructed, isGiven, audio 3 0 _ isBlock, rfl, ?_⟩
  -- the block is audio, which nothing is written over; the count is there if nothing covers it
  intro unmentioned
  rw [others 2 ?_ 0, isLeft]
  rintro ⟨last, voice, deep, unfoldsTo, proc, isProc, other, isOther, fills | mentions⟩
  · exact unfilled ⟨last, voice, deep, unfoldsTo, proc, isProc, other, isOther, fills⟩
  · exact unmentioned ⟨last, voice, deep, unfoldsTo, proc, isProc, other, isOther, mentions⟩

namespace Tones

/-- A subnet around a tone, with a variable for the channels of the tone, and a preset for it. -/
def table : List (String × Toml) :=
  [("subnets", .table [("osc", .table
    [("network", .table [("procs", .table [("tone", .table [("class", .string "sine_tone")])])]),
      ("vars", .table [Shells.standsFor "channels" "tone.ch_cnt" []]),
      ("presets", .table [("wide", .table [("channels", .integer 2)])])])])]

/-- A tone that takes its count from its class. -/
def toneSpec : ProcSpec := ⟨"tone", "sine_tone", .empty, [], none, none, none⟩

/-- The subnet, finished. -/
def osc : ClassDescription Builtin :=
  ⟨"osc", [⟨"channels", "", some .uint, .single .init, some (.int 1), true,
      some ⟨"tone", "ch_cnt"⟩⟩],
    [⟨"wide", ⟨[("channels", .int 2)]⟩⟩], .subnet ⟨[toneSpec], []⟩, none⟩

/-- The class set that the table finishes with, behind the one of the built-in classes. -/
def classes : ClassSet Builtin :=
  ⟨((Catalogue.empty Registry.builtin).addTables [Descriptions.builtin]).plain ++ [osc]⟩

theorem finish_eq : ((Catalogue.empty Registry.builtin).addTables
    ([] ++ Descriptions.builtin :: [table])).finish = .ok classes :=
  (Catalogue.wellFormed_addTables Registry.builtin _).1.finish_eq_ok.mpr
    ⟨Catalogue.resolveAll_of_resolveRound rfl, rfl⟩

/-- A tone in a subnet that is wide from construction on. -/
def oscSpec : ProcSpec := ⟨"osc", "osc", .empty, [], some "wide", none, none⟩

/-- A tone with an argument for its channels. -/
def leadSpec : ProcSpec :=
  ⟨"lead", "sine_tone", .ofList [("ch_cnt", .int 3)], [], some "high", none, none⟩

def template : Template := ⟨[oscSpec, leadSpec], []⟩

/-- A native proc of the class of tones. -/
def tone (label : String) (slot : Nat) : Proc Builtin :=
  .native ⟨label, none, Builtin.toneDescription, [], none⟩ slot

def oscProc : Proc Builtin :=
  .subnet ⟨"osc", none, osc, [], none⟩ [tone "tone" 0] [0] [] [[(0, 2)]]

def level : Level Builtin := ⟨[oscProc, tone "lead" 1], [0, 1], []⟩

theorem built : ∃ store, Network.build classes template ⟨48000, 1⟩ [] =
    .ok ⟨"root", level, store, [], ⟨48000, 1⟩, 0⟩ := ⟨_, rfl⟩

/-- What some proc does on the level or inside, one of these three does. -/
theorem cases_somewhere {does : Proc Builtin → ProcSpec → Prop}
    (somewhere : level.Somewhere does template none) :
    does oscProc oscSpec ∨ does (tone "lead" 1) leadSpec ∨ does (tone "tone" 0) toneSpec := by
  obtain ⟨own, number, inside, unfolds, proc, member, spec, isSpec, done⟩ := somewhere
  cases unfolds with
  | self =>
      simp only [level, List.mem_cons, List.not_mem_nil, or_false] at member
      rcases member with rfl | rfl
      · cases isSpec
        exact .inl done
      · cases isSpec
        exact .inr (.inl done)
  | inner isProc isSubnet isInner deeper =>
      simp only [level, List.mem_cons, List.not_mem_nil, or_false] at isProc
      rcases isProc with rfl | rfl
      · cases isSubnet
        cases isInner
        cases deeper with
        | self =>
            cases List.mem_singleton.mp member
            cases isSpec
            exact .inr (.inr done)
        | inner isTone isInner =>
            cases List.mem_singleton.mp isTone
            cases isInner
      · cases isSubnet

/-- The variable of the subnet is neither given an argument nor a default. -/
theorem unfilled (terminal : Terminal) :
    ¬ level.Somewhere (·.Fills · terminal) template none := by
  intro somewhere
  rcases cases_somewhere somewhere with fills | fills | fills
  · obtain ⟨-, var, leads, own | ⟨entry, isEntry, -⟩⟩ := fills
    · cases var with
      | zero => cases own
      | succ var => cases own
    · cases isEntry
  · cases fills.1
  · cases fills.1

/-- No preset for construction mentions the count of the lead. -/
theorem unmentioned : ¬ level.Somewhere (·.Mentions · ⟨1, 2⟩) template none := by
  intro somewhere
  rcases cases_somewhere somewhere with mentions | mentions | mentions
  · obtain ⟨-, -, -, -, label, -, var, -, leads⟩ := mentions
    exact absurd (Proc.slot_mem_of_terminal leads) (by decide)
  · obtain ⟨label, body, asked, found, named, isNamed, var, indexed, leads⟩ := mentions
    cases asked
    cases found
    simp only [Assignments.labels, List.map_cons, List.map_nil, List.mem_cons, List.not_mem_nil,
      or_false] at isNamed
    rcases isNamed with rfl | rfl
    · cases indexed
      cases List.mem_singleton.mp leads
    · cases indexed
      cases List.mem_singleton.mp leads
  · obtain ⟨label, body, asked, -⟩ := mentions
    cases asked

end Tones

/-- A preset for construction mentions the count of a tone in a subnet: the tone then has a count of
two, and sounds on one channel. -/
theorem preset_leaves_tone_buffer :
    ((Catalogue.empty Registry.builtin).addTables
        ([] ++ Descriptions.builtin :: [Tones.table])).finish = .ok Tones.classes ∧
      ∃ (network : Network Builtin) (inside : Level Builtin) (head : ProcHead Builtin)
          (block : AudioBlock),
        Network.build Tones.classes Tones.template ⟨48000, 1⟩ [] = .ok network ∧
          network.level.Within inside ∧ .native head 0 ∈ inside.procs ∧
            head.description.label = "sine_tone" ∧
            head.description.variableIndex? "ch_cnt" = some 2 ∧
            head.description.variableIndex? "out" = some 3 ∧
            network.store.place? ⟨0, 2⟩ 0 = some (.uint 2) ∧
            network.store.place? ⟨0, 3⟩ 0 = some (.audio block) ∧ block.channels = 1 := by
  have built : Network.build Tones.classes Tones.template ⟨48000, 1⟩ [] = .ok _ := rfl
  refine ⟨Tones.finish_eq, _, _, _, .silent 1 1, built,
    .inner (List.mem_of_getElem? (i := 0) rfl) rfl (.self _), List.mem_cons_self, rfl, rfl, rfl,
    by decide +kernel, by decide +kernel, rfl⟩

/-- A tone with an argument of three has a count of three and sounds on three channels. The one in
the subnet sounds on the one channel that its class declares. -/
theorem tones_sound_as_constructed : ∃ network : Network Builtin,
    Network.build Tones.classes Tones.template ⟨48000, 1⟩ [] = .ok network ∧
      network.store.place? ⟨1, 2⟩ 0 = some (.uint 3) ∧
        (∃ block, network.store.place? ⟨1, 3⟩ 0 = some (.audio block) ∧ block.channels = 3) ∧
          ∃ block, network.store.place? ⟨0, 3⟩ 0 = some (.audio block) ∧ block.channels = 1 := by
  obtain ⟨store, built⟩ := Tones.built
  obtain ⟨-, each⟩ := tone_channels_as_constructed [] [Tones.table] rfl Tones.finish_eq built
  refine ⟨_, built, ?_⟩
  obtain ⟨counter, out, -, isCounter, isOut, -, -, lead⟩ := each _ _ _ (.self _ _ _) _ 1
    (List.mem_of_getElem? (i := 1) rfl) rfl
  cases isCounter
  cases isOut
  obtain ⟨spec, given, left, count, block, isSpec, constructed, isGiven, isBlock, channels, held⟩ :=
    lead (Tones.unfilled _)
  cases isSpec
  obtain ⟨native, device, start, processor, isPlain, bound, declared, applied, created⟩ :=
    constructed
  cases declared
  cases applied
  cases isGiven
  refine ⟨held Tones.unmentioned, ⟨block, isBlock, channels⟩, ?_⟩
  obtain ⟨counter, out, -, isCounter, isOut, -, -, inner⟩ := each _ _ _
    (.inner (List.mem_of_getElem? (i := 0) rfl) rfl rfl (.self _ _ _)) _ 0 List.mem_cons_self rfl
  cases isCounter
  cases isOut
  obtain ⟨spec, given, left, count, block, isSpec, constructed, isGiven, isBlock, channels, -⟩ :=
    inner (Tones.unfilled _)
  cases isSpec
  obtain ⟨native, device, start, processor, isPlain, bound, declared, applied, created⟩ :=
    constructed
  cases declared
  cases applied
  cases isGiven
  exact ⟨block, isBlock, channels⟩

end SignalNet
