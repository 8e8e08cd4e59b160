import EntityPack.Proofs.FormValues

/-!
# Forms with fields left out

A field that is left out of a written form takes its default value when the form is read, and
all other fields are read as they were written. So nothing is lost where the fields that are
left out hold their default values, in the form itself or in a form inside of it.
-/
namespace EntityPack

def Json.without (names : List String) : Json → Json
  | .obj fields => .obj (fields.filter fun field => !names.contains field.1)
  | value => value

def Json.alter (name : String) (f : Json → Json) : Json → Json
  | .obj fields =>
    .obj (fields.map fun field => if field.1 = name then (name, f field.2) else field)
  | value => value

/-- What is read for a field, if those of some names are left out. -/
def leftOut {α : Type} (names : List String) (name : String) (default value : α) : α :=
  if name ∈ names then default else value

def Sounds.without (names : List String) (s : Sounds) : Sounds :=
  let bare : Sounds := {}
  { ambient := leftOut names "ambient" bare.ambient s.ambient
    hurt := leftOut names "hurt" bare.hurt s.hurt
    death := leftOut names "death" bare.death s.death
    step := leftOut names "step" bare.step s.step
    pitch := leftOut names "pitch" bare.pitch s.pitch
    volume := leftOut names "volume" bare.volume s.volume }

def FormatVersions.without (names : List String) (v : FormatVersions) : FormatVersions :=
  let bare : FormatVersions := {}
  { behavior := leftOut names "behavior_format_version" bare.behavior v.behavior
    resource := leftOut names "resource_format_version" bare.resource v.resource
    controller := leftOut names "controller_format_version" bare.controller v.controller
    animation := leftOut names "animation_format_version" bare.animation v.animation
    item := leftOut names "item_format_version" bare.item v.item }

structure Options.Names where
  fields : List String
  sounds : List String := []
  versions : List String := []

def Options.without (names : Options.Names) (o : Options) : Options :=
  let bare : Options := {}
  { id := leftOut names.fields "identifier" bare.id o.id
    eggName := leftOut names.fields "egg_name" bare.eggName o.eggName
    collision := leftOut names.fields "collision" bare.collision o.collision
    health := leftOut names.fields "hp" bare.health o.health
    attack := leftOut names.fields "attack" bare.attack o.attack
    speed := leftOut names.fields "move_speed" bare.speed o.speed
    physics := leftOut names.fields "has_physics" bare.physics o.physics
    noDamage := leftOut names.fields "no_damage" bare.noDamage o.noDamage
    spawnGroups := leftOut names.fields "spawn_groups" bare.spawnGroups o.spawnGroups
    graphics := leftOut names.fields "has_graphics" bare.graphics o.graphics
    invisible := leftOut names.fields "invisible" bare.invisible o.invisible
    runtimeId := leftOut names.fields "runtime_identifier" bare.runtimeId o.runtimeId
    despawnable := leftOut names.fields "despawnable" bare.despawnable o.despawnable
    sounds := leftOut names.fields "sounds" bare.sounds (o.sounds.without names.sounds)
    bindings := leftOut names.fields "variables" bare.bindings o.bindings
    versions := leftOut names.fields "config" bare.versions (o.versions.without names.versions) }

def LoopState.without (names : List String) (s : LoopState) : LoopState :=
  let bare : LoopState := {}
  { behaviorController := leftOut names "banco" bare.behaviorController s.behaviorController
    renderController := leftOut names "ranco" bare.renderController s.renderController
    components := leftOut names "components" bare.components s.components
    entryCommands := leftOut names "entry_commands" bare.entryCommands s.entryCommands
    exitCommands := leftOut names "exit_commands" bare.exitCommands s.exitCommands
    timer := leftOut names "timer" bare.timer s.timer
    last := leftOut names "last_state" bare.last s.last
    name := leftOut names "name" bare.name s.name
    connections := leftOut names "connections" bare.connections s.connections
    timerBranch := leftOut names "timer_state" bare.timerBranch s.timerBranch
    health := leftOut names "hp" bare.health s.health
    attack := leftOut names "attack" bare.attack s.attack
    speed := leftOut names "move_speed" bare.speed s.speed
    noDamage := leftOut names "no_damage" bare.noDamage s.noDamage
    animation := leftOut names "animation" bare.animation s.animation
    animationEndsWithState :=
      leftOut names "end_anim_with_state" bare.animationEndsWithState s.animationEndsWithState
    blendTime := leftOut names "anim_blend_time" bare.blendTime s.blendTime
    properties := leftOut names "set_properties" bare.properties s.properties }

/-- Both zeros are equal as numbers. Only a field whose default is a number, and is left out,
can come back as the other zero. -/
structure Sounds.Equals (s s' : Sounds) : Prop where
  pitch : (s.pitch == s'.pitch) = true
  volume : (s.volume == s'.volume) = true
  rest : { s with pitch := s'.pitch, volume := s'.volume } = s'

structure Options.Equals (o o' : Options) : Prop where
  collision : (o.collision == o'.collision) = true
  sounds : o.sounds.Equals o'.sounds
  rest : { o with collision := o'.collision, sounds := o'.sounds } = o'

structure LoopState.Equals (s s' : LoopState) : Prop where
  blendTime : (s.blendTime == s'.blendTime) = true
  rest : { s with blendTime := s'.blendTime } = s'

structure Sounds.Fits (s : Sounds) : Prop where
  pitch : s.pitch.1.isFinite = true ∧ s.pitch.2.isFinite = true
  volume : s.volume.isFinite = true

structure Options.Fits (o : Options) : Prop where
  collision : o.collision.1.isFinite = true ∧ o.collision.2.isFinite = true
  health : ∀ points ∈ o.health, IntegerType.u32.holds points = true
  attack : ∀ damage ∈ o.attack, damage.Fits
  speed : ∀ speed ∈ o.speed, speed.isFinite = true
  sounds : o.sounds.Fits

structure LoopState.Fits (s : LoopState) : Prop where
  behaviorController : IntegerType.u64.holds s.behaviorController = true
  renderController : IntegerType.u64.holds s.renderController = true
  timer : ∀ seconds ∈ s.timer, seconds.isFinite = true
  health : ∀ points ∈ s.health, IntegerType.u32.holds points = true
  attack : ∀ damage ∈ s.attack, damage.Fits
  speed : ∀ speed ∈ s.speed, speed.isFinite = true
  blendTime : s.blendTime.isFinite = true
  properties : ∀ assignments ∈ s.properties, ∀ entry ∈ assignments, entry.2.Fits

namespace Form

variable {α β : Type} {read : Json → Option α} {next : α → Option β}

open Datum

theorem record_read {name : String} {declared names : List String} {json : Json}
    {fields : Entries Json} {next : Entries Json → Option β} (h : json = .obj fields) :
    (record? name declared (json.without names)).bind next =
      next ((fields.filter fun field => !names.contains field.1).filter
        fun field => declared.contains field.1) := by
  subst h
  rfl

theorem field_read {fields : Entries Json} {names declared : List String} {key : String}
    {default value : α} {json : Json} (hdeclared : declared.contains key = true)
    (hjson : Entries.get? key fields = some json) (hread : read json = some value) :
    (field ((fields.filter fun field => !names.contains field.1).filter
        fun field => declared.contains field.1) key default read).bind next =
      next (leftOut names key default value) := by
  unfold field leftOut
  rw [Entries.get?_filter (declared.contains ·), if_pos hdeclared,
    Entries.get?_filter (fun key => !names.contains key), hjson]
  by_cases hname : key ∈ names
  · simp [hname]
  · simp [hname, hread]

theorem sounds?_without {s : Sounds} (h : s.Fits) (names : List String) :
    sounds? ((ofSounds s).without names) = some (s.without names) := by
  dsimp only [sounds?, Option.bind_eq_bind]
  rw [record_read (show ofSounds s = .obj _ from rfl),
    field_read rfl rfl (optionalText?_optional s.ambient),
    field_read rfl rfl (optionalText?_optional s.hurt),
    field_read rfl rfl (optionalText?_optional s.death),
    field_read rfl rfl (optionalText?_optional s.step),
    field_read rfl rfl (pairOf_ofPair h.pitch),
    field_read rfl rfl (number?_ofFloat h.volume)]
  rfl

theorem versions?_without (v : FormatVersions) (names : List String) :
    versions? ((ofVersions v).without names) = some (v.without names) := by
  dsimp only [versions?, Option.bind_eq_bind]
  rw [record_read (show ofVersions v = .obj _ from rfl),
    field_read rfl rfl (text?_str v.behavior),
    field_read rfl rfl (text?_str v.resource),
    field_read rfl rfl (text?_str v.controller),
    field_read rfl rfl (text?_str v.animation),
    field_read rfl rfl (text?_str v.item)]
  rfl

def ofOptionsWithout (names : Options.Names) (o : Options) : Json :=
  (((ofOptions o).alter "sounds" (·.without names.sounds)).alter "config"
    (·.without names.versions)).without names.fields

theorem options?_without {o : Options} (h : o.Fits) (names : Options.Names) :
    options? (ofOptionsWithout names o) = some (o.without names) := by
  dsimp only [options?, ofOptionsWithout, Option.bind_eq_bind]
  rw [record_read (show ((ofOptions o).alter "sounds" (·.without names.sounds)).alter "config"
      (·.without names.versions) = .obj _ from rfl),
    field_read rfl rfl (optionalText?_optional o.id),
    field_read rfl rfl (optionalText?_optional o.eggName),
    field_read rfl rfl (pairOf_ofPair h.collision),
    field_read rfl rfl (optionalNatural?_optional h.health),
    field_read rfl rfl (optionalDamage?_optional h.attack),
    field_read rfl rfl (optionalNumber?_optional h.speed),
    field_read rfl rfl (flag?_bool o.physics),
    field_read rfl rfl (flag?_bool o.noDamage),
    field_read rfl rfl (texts?_ofStrings o.spawnGroups),
    field_read rfl rfl (flag?_bool o.graphics),
    field_read rfl rfl (flag?_bool o.invisible),
    field_read rfl rfl (optionalText?_optional o.runtimeId),
    field_read rfl rfl (flag?_bool o.despawnable),
    field_read rfl rfl (sounds?_without h.sounds names.sounds),
    field_read rfl rfl (variables?_ofVariables o.bindings),
    field_read rfl rfl (versions?_without o.versions names.versions)]
  rfl

theorem loopState?_without {s : LoopState} (h : s.Fits) (names : List String) :
    loopState? ((ofLoopState s).without names) = some (s.without names) := by
  dsimp only [loopState?, Option.bind_eq_bind]
  rw [record_read (show ofLoopState s = .obj _ from rfl),
    field_read rfl rfl (natural?_ofNat h.behaviorController),
    field_read rfl rfl (natural?_ofNat h.renderController),
    field_read rfl rfl (listOf_arr fun c _ => component?_ofComponent c),
    field_read rfl rfl (optionalTexts?_optional s.entryCommands),
    field_read rfl rfl (optionalTexts?_optional s.exitCommands),
    field_read rfl rfl (optionalNumber?_optional h.timer),
    field_read rfl rfl (flag?_bool s.last),
    field_read rfl rfl (optionalText?_optional s.name),
    field_read rfl rfl (texts?_ofStrings s.connections),
    field_read rfl rfl (optionalText?_optional s.timerBranch),
    field_read rfl rfl (optionalNatural?_optional h.health),
    field_read rfl rfl (optionalDamage?_optional h.attack),
    field_read rfl rfl (optionalNumber?_optional h.speed),
    field_read rfl rfl (flag?_bool s.noDamage),
    field_read rfl rfl (optionalText?_optional s.animation),
    field_read rfl rfl (flag?_bool s.animationEndsWithState),
    field_read rfl rfl (number?_ofFloat h.blendTime),
    field_read rfl rfl (optionalAssignments?_optional h.properties)]
  rfl

end Form

open Float.Model in
theorem beq_self_of_finite {x : Float} (h : x.isFinite = true) : (x == x) = true := by
  obtain ⟨m⟩ := x
  change m.unpack.isFinite = true at h
  change (m.unpack.compare m.unpack == some .eq) = true
  cases hunpacked : m.unpack with
  | infinity sign =>
    rw [hunpacked] at h
    cases h
  | notANumber =>
    rw [hunpacked] at h
    cases h
  | zero sign => rfl
  | finite sign mantissa exponent hmantissa =>
    have horder : (compare exponent exponent).then (compare mantissa mantissa) = .eq := by simp
    cases sign with
    | negative =>
      change (some ((compare exponent exponent).then (compare mantissa mantissa)).swap ==
        some .eq) = true
      rw [horder]
      rfl
    | positive =>
      change (some ((compare exponent exponent).then (compare mantissa mantissa)) ==
        some .eq) = true
      rw [horder]
      rfl

theorem pair_beq_self_of_finite {pair : Float × Float}
    (h : pair.1.isFinite = true ∧ pair.2.isFinite = true) : (pair == pair) = true :=
  Bool.and_eq_true_iff.mpr ⟨beq_self_of_finite h.1, beq_self_of_finite h.2⟩

section LeftOut

variable {α : Type} {names : List String} {name : String} {default value : α}

/-- What holds of the value, and of the default if the field is left out, holds of what is
read. -/
theorem leftOut_induction {P : α → Prop} (hvalue : P value)
    (hdefault : name ∈ names → P default) : P (leftOut names name default value) := by
  by_cases hname : name ∈ names
  · rw [leftOut, if_pos hname]
    exact hdefault hname
  · rwa [leftOut, if_neg hname]

theorem leftOut_nil (name : String) (default value : α) : leftOut [] name default value = value :=
  if_neg List.not_mem_nil

theorem leftOut_single (name : String) (default value : α) :
    leftOut [name] name default value = default := if_pos (List.mem_singleton.mpr rfl)

theorem leftOut_eq (h : name ∈ names → leftOut [name] name default value = value) :
    leftOut names name default value = value :=
  leftOut_induction (P := (· = value)) rfl fun hm => (leftOut_single ..).symm.trans (h hm)

/-- A record that holds the default in a field loses nothing with that field. -/
theorem leftOut_field {σ : Type} {single : String → σ} {s : σ}
    (h : ∀ name ∈ names, single name = s) (field : σ → α)
    (hfield : field (single name) = leftOut [name] name default (field s)) :
    leftOut names name default (field s) = field s :=
  leftOut_eq fun hm => hfield.symm.trans (congrArg field (h name hm))

end LeftOut

theorem Sounds.equals_without {s : Sounds} (h : s.Fits) {names : List String}
    (hdefault : ∀ name ∈ names, (s.without [name]).Equals s) : (s.without names).Equals s where
  pitch := leftOut_induction (P := fun pitch => (pitch == s.pitch) = true)
    (pair_beq_self_of_finite h.pitch) fun hm => (hdefault _ hm).pitch
  volume := leftOut_induction (P := fun volume => (volume == s.volume) = true)
    (beq_self_of_finite h.volume) fun hm => (hdefault _ hm).volume
  rest := by
    have hrest := fun name hm => (hdefault name hm).rest
    rw [without, leftOut_field hrest ambient rfl, leftOut_field hrest hurt rfl,
      leftOut_field hrest death rfl, leftOut_field hrest step rfl]

theorem FormatVersions.without_eq {v : FormatVersions} {names : List String}
    (hdefault : ∀ name ∈ names, v.without [name] = v) : v.without names = v := by
  rw [without, leftOut_field hdefault behavior rfl, leftOut_field hdefault resource rfl,
    leftOut_field hdefault controller rfl, leftOut_field hdefault animation rfl,
    leftOut_field hdefault item rfl]

structure Options.Defaulted (o : Options) (names : Names) : Prop where
  fields : ∀ name ∈ names.fields, (o.without { fields := [name] }).Equals o
  sounds : ∀ name ∈ names.sounds, (o.sounds.without [name]).Equals o.sounds
  versions : ∀ name ∈ names.versions, o.versions.without [name] = o.versions

theorem Options.equals_without {o : Options} (h : o.Fits) {names : Names}
    (hdefault : o.Defaulted names) : (o.without names).Equals o where
  collision := leftOut_induction (P := fun collision => (collision == o.collision) = true)
    (pair_beq_self_of_finite h.collision) fun hm => (hdefault.fields _ hm).collision
  sounds := leftOut_induction (P := fun sounds : Sounds => sounds.Equals o.sounds)
    (Sounds.equals_without h.sounds hdefault.sounds) fun hm => (hdefault.fields _ hm).sounds
  rest := by
    have hrest := fun name hm => (hdefault.fields name hm).rest
    rw [without, FormatVersions.without_eq hdefault.versions, leftOut_field hrest id rfl,
      leftOut_field hrest eggName rfl, leftOut_field hrest health rfl,
      leftOut_field hrest attack rfl, leftOut_field hrest speed rfl,
      leftOut_field hrest physics rfl, leftOut_field hrest noDamage rfl,
      leftOut_field hrest spawnGroups rfl, leftOut_field hrest graphics rfl,
      leftOut_field hrest invisible rfl, leftOut_field hrest runtimeId rfl,
      leftOut_field hrest despawnable rfl, leftOut_field hrest bindings rfl,
      leftOut_field hrest versions rfl]

def LoopState.Defaulted (s : LoopState) (names : List String) : Prop :=
  ∀ name ∈ names, (s.without [name]).Equals s

theorem LoopState.equals_without {s : LoopState} (h : s.Fits) {names : List String}
    (hdefault : s.Defaulted names) : (s.without names).Equals s where
  blendTime := leftOut_induction (P := fun blendTime => (blendTime == s.blendTime) = true)
    (beq_self_of_finite h.blendTime) fun hm => (hdefault _ hm).blendTime
  rest := by
    have hrest := fun name hm => (hdefault name hm).rest
    rw [without, leftOut_field hrest behaviorController rfl,
      leftOut_field hrest renderController rfl, leftOut_field hrest components rfl,
      leftOut_field hrest entryCommands rfl, leftOut_field hrest exitCommands rfl,
      leftOut_field hrest timer rfl, leftOut_field hrest last rfl, leftOut_field hrest name rfl,
      leftOut_field hrest connections rfl, leftOut_field hrest timerBranch rfl,
      leftOut_field hrest health rfl, leftOut_field hrest attack rfl,
      leftOut_field hrest speed rfl, leftOut_field hrest noDamage rfl,
      leftOut_field hrest animation rfl, leftOut_field hrest animationEndsWithState rfl,
      leftOut_field hrest properties rfl]

theorem Json.without_nil (json : Json) : json.without [] = json := by
  cases json <;> simp [without]

theorem Json.alter_self (name : String) (json : Json) :
    json.alter name (fun value => value) = json := by
  cases json with
  | obj fields =>
    have hsame : ∀ field : String × Json,
        (if field.1 = name then (name, field.2) else field) = field := by
      intro field
      split
      · rename_i hname
        rw [← hname]
      · rfl
    simp [alter, hsame]
  | _ => rfl

theorem Form.ofOptionsWithout_nil (o : Options) :
    ofOptionsWithout { fields := [] } o = ofOptions o := by
  simp only [ofOptionsWithout, Json.without_nil, Json.alter_self]

theorem LoopState.without_nil (s : LoopState) : s.without [] = s := by
  simp only [without, leftOut_nil]

theorem Options.without_nil (o : Options) : o.without { fields := [] } = o := by
  simp only [without, Sounds.without, FormatVersions.without, leftOut_nil]

/-- A loop state and options are read as they were written. If fields that hold their defaults
are left out, in the form itself or in the sounds and the versions of options, what is read is
still equal. -/
theorem written_forms_are_read :
    (∀ s : LoopState, s.Fits → Form.loopState? (Form.ofLoopState s) = some s ∧
      ∀ names, s.Defaulted names → ∃ s',
        Form.loopState? ((Form.ofLoopState s).without names) = some s' ∧ s'.Equals s) ∧
    ∀ o : Options, o.Fits → Form.options? (Form.ofOptions o) = some o ∧
      ∀ names, o.Defaulted names → ∃ o',
        Form.options? (Form.ofOptionsWithout names o) = some o' ∧ o'.Equals o := by
  constructor
  · intro s hs
    have hread := Form.loopState?_without hs
    refine ⟨?_, fun names hd => ⟨s.without names, hread names, s.equals_without hs hd⟩⟩
    have hwhole := hread []
    rwa [Json.without_nil, s.without_nil] at hwhole
  · intro o ho
    have hread := Form.options?_without ho
    refine ⟨?_, fun names hd => ⟨o.without names, hread names, o.equals_without ho hd⟩⟩
    have hwhole := hread { fields := [] }
    rwa [Form.ofOptionsWithout_nil, o.without_nil] at hwhole

def mixedState : LoopState := {
  components := [⟨"sensor", [("range", .arr [.int 1, .float 2.5]), ("to", .null)]⟩]
  timer := some 2.5
  connections := ["hurt"]
  attack := some (.range 2 4)
  properties := some [("phase", .int (-1)), ("phase", .text "late")] }

/-- The width of the collision box is the other zero. -/
def zeroOptions : Options := {
  collision := (-0.0, 0.0)
  spawnGroups := ["idle"]
  sounds := { hurt := some "mob.boss.hurt" } }

theorem mixed_state_and_zero_options_are_read :
    mixedState.Fits ∧ mixedState.Defaulted ["banco", "name", "anim_blend_time"] ∧
    Form.loopState? (Form.ofLoopState mixedState) = some mixedState ∧
    zeroOptions.Fits ∧
    zeroOptions.Defaulted ⟨["collision", "config"], ["pitch"], ["item_format_version"]⟩ ∧
    ∃ o', Form.options? (Form.ofOptionsWithout
        ⟨["collision", "config"], ["pitch"], ["item_format_version"]⟩ zeroOptions) = some o' ∧
      o'.Equals zeroOptions ∧ o'.spawnGroups = ["idle"] := by
  have hmixed : mixedState.Fits := by constructor <;> decide +kernel
  have hzero : zeroOptions.Fits := {
    collision := by decide +kernel
    health := by decide +kernel
    attack := by decide +kernel
    speed := by decide +kernel
    sounds := ⟨by decide +kernel, by decide +kernel⟩ }
  have hstate : mixedState.Defaulted ["banco", "name", "anim_blend_time"] := by
    have hequal : mixedState.Equals mixedState := ⟨by decide +kernel, rfl⟩
    intro name hname
    simp only [List.mem_cons, List.not_mem_nil, or_false] at hname
    obtain rfl | rfl | rfl := hname <;> exact hequal
  have hoptions : zeroOptions.Defaulted
      ⟨["collision", "config"], ["pitch"], ["item_format_version"]⟩ := by
    have hsounds : zeroOptions.sounds.Equals zeroOptions.sounds :=
      ⟨by decide +kernel, by decide +kernel, rfl⟩
    constructor
    · intro name hname
      simp only [List.mem_cons, List.not_mem_nil, or_false] at hname
      obtain rfl | rfl := hname
      · exact ⟨by decide +kernel, hsounds, rfl⟩
      · exact ⟨by decide +kernel, hsounds, rfl⟩
    · intro name hname
      obtain rfl := List.mem_singleton.mp hname
      exact hsounds
    · intro name hname
      obtain rfl := List.mem_singleton.mp hname
      rfl
  obtain ⟨hstates, hall⟩ := written_forms_are_read
  obtain ⟨o', hread, hequal⟩ := (hall zeroOptions hzero).2 _ hoptions
  refine ⟨hmixed, hstate, (hstates mixedState hmixed).1, hzero, hoptions, o', hread, hequal, ?_⟩
  exact congrArg Options.spawnGroups hequal.rest

end EntityPack
