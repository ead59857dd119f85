import Mathlib
import Tocsin.Proofs.Outcome
import Tocsin.Proofs.Settings.Overlay
import Tocsin.Settings.Load

/-!
# One law for settings in layers

The settings of the client and of the log can be given as objects: among the arguments, in a
variable and in the file.  Each setting in them can also have a variable, or an entry in the file,
of its own.  `Layered` is the law by which all this is settled, and `AppSettings.layered_of_load`
says that it holds whenever settings can be loaded.  There are two things that one may miss.  A key
counts for a name in any letter case, and options among the arguments apply to the objects, but not
to the variables and entries that the settings have of their own; without either, the law does not
hold (`not_layered`).
-/

set_option autoImplicit false

namespace Tocsin.Settings

open Tocsin.Config Tocsin.Outcome Tocsin.Text

/-! ## What is given -/

/-- The keys of an object are distinct texts, and none of them is the name of an option. -/
structure IsObject (m : Mapping) : Prop where
  keyed : m.IsKeyed
  plain : ∀ key v, m.get? key = some v → key.toList.head? ≠ some '_'

/-- What is looked up is an object, or there is nothing, which counts as an empty object. -/
inductive Gives : Option Value → Mapping → Prop
  | nothing : Gives none []
  | object {m : Mapping} (h : IsObject m) : Gives (some (.dict m)) m

/-- The objects that are given for a field, in each of the layers. -/
structure Offer where
  arguments : Mapping
  process : Mapping
  file : Mapping

/-- No object is given, or none that counts. -/
def Offer.nothing : Offer := ⟨[], [], []⟩

/-- Which keys count for a name. -/
inductive Naming where
  /-- Only the name as it is written. -/
  | asWritten
  /-- The name as it is written; where it is missing, the first key that is the name in another
  letter case. -/
  | anyCase

/-- The argument that counts for a name. -/
def Naming.argument? : Naming → String → Mapping → Option Value
  | asWritten, name, arguments => arguments.get? name
  | anyCase, name, arguments => Settings.argument? name arguments

/-- What is given for a field: an object in each layer, if any, or null among the arguments, which
stands for no object whatever the other layers hold. -/
inductive Offered (naming : Naming) (o : Options) (e : Environment) (arguments : Mapping)
    (slot : Slot) : Offer → Prop
  | objects {offer : Offer}
      (harguments : Gives (naming.argument? slot.name arguments) offer.arguments)
      (hprocess : Gives (Source.find ⟨o, e.processView o⟩ slot) offer.process)
      (hfile : Gives (Source.find ⟨o, e.fileView o⟩ slot) offer.file) :
      Offered naming o e arguments slot offer
  | withdrawn (h : naming.argument? slot.name arguments = some .null) :
      Offered naming o e arguments slot .nothing

/-! ## The law -/

namespace Offer

/-- What the objects have under a key, an upper layer before a lower one. -/
def get? (offer : Offer) (key : String) : Option Value :=
  (offer.arguments.get? key).or ((offer.process.get? key).or (offer.file.get? key))

/-- The first key that is a name in any letter case, lower layers first. -/
def variant? (offer : Offer) (name : String) : Option String :=
  (firstKey (lower · = name) offer.file).or
    ((firstKey (lower · = name) offer.process).or (firstKey (lower · = name) offer.arguments))

/-- What the objects have for a name. -/
def entry (offer : Offer) : Naming → String → Option Value
  | .asWritten, name => offer.get? name
  | .anyCase, name => (offer.get? name).or ((offer.variant? name).bind offer.get?)

end Offer

/-- The text of the variable with a name, or of the entry in a file. -/
def ownVariable (vars : EnvFile.Variables) (name : String) : Option Value :=
  (vars.reverse.lookup (lower name)).join.map .text

/-- What counts for a setting: what the objects have for it, else its own variable, else its own
entry in the file. -/
def Offer.chosen (offer : Offer) (naming : Naming) (e : Environment) (name : String) :
    Option Value :=
  (offer.entry naming name).or
    ((ownVariable (e.processView .usual) name).or (ownVariable (e.fileView .usual) name))

/-- The value that is read, or a default where there is nothing to read. -/
def settle {α : Type} (default : α) (read : Reader α) : Option Value → Checked α
  | none => .ok default
  | some v => read v

/-- The field for the settings of the client. -/
def httpSlot : Slot := ⟨"http", some HttpSettings.model.fields.names⟩

/-- The field for the settings of the log. -/
def loggingSlot : Slot := ⟨"logging", some LoggingSettings.model.fields.names⟩

/-- The law: each setting of the client and of the log is what counts for it, or its default, and
where no object is given the settings are those that are loaded without the rest. -/
structure Layered (naming : Naming) (o : Options) (e : Environment) (arguments : Mapping)
    (s : AppSettings) : Prop where
  timeout : ∀ offer, Offered naming o e arguments httpSlot offer →
    settle 10.0 readFloat (offer.chosen naming e "alert_http_timeout_seconds") =
      .ok s.http.timeoutSeconds
  level : ∀ offer, Offered naming o e arguments loggingSlot offer →
    settle "INFO" readText (offer.chosen naming e "log_level") = .ok s.logging.level
  format : ∀ offer, Offered naming o e arguments loggingSlot offer →
    settle "console" readText (offer.chosen naming e "log_format") = .ok s.logging.format
  http : Offered naming o e arguments httpSlot .nothing →
    (load HttpSettings.model e []).result = .ok s.http
  logging : Offered naming o e arguments loggingSlot .nothing →
    (load LoggingSettings.model e []).result = .ok s.logging

/-! ## Objects that stand for offers -/

/-- Nothing at all is an object. -/
theorem isObject_nil : IsObject [] := ⟨Mapping.isKeyed_nil, by rintro key v ⟨⟩⟩

/-- One entry that is no option makes an object. -/
theorem isObject_singleton {key : String} (h : key.toList.head? ≠ some '_') (v : Value) :
    IsObject [(.text key, v)] := by
  refine ⟨⟨[key], rfl, List.nodup_singleton key⟩, fun other w hfound => ?_⟩
  rw [Mapping.get?_cons] at hfound
  split at hfound
  next heq => exact heq ▸ h
  next => cases hfound

/-- Objects laid over one another make one. -/
theorem IsObject.merge {upper under : Mapping} (hupper : IsObject upper)
    (hunder : IsObject under) : IsObject (Layer.merge under upper) := by
  refine ⟨isKeyed_merge hupper.keyed hunder.keyed, fun key v hfound => ?_⟩
  rw [Layer.get?_merge hupper.keyed] at hfound
  cases hkey : upper.get? key with
  | some w => exact hupper.plain key w hkey
  | none =>
      rw [hkey] at hfound
      exact hunder.plain key v hfound

/-- An argument whose name does not start with an underscore is no option. -/
theorem Options.take_eq {name : String} (h : name.toList.head? ≠ some '_') (o : Options)
    (v : Value) : o.take name v = o := by
  unfold Options.take
  split <;> first | rfl | exact absurd (by decide) h

/-- An object has no options among its keys, so with it as arguments the usual ones hold. -/
theorem IsObject.ofArguments_eq {m : Mapping} (h : IsObject m) :
    Options.ofArguments m = .usual := by
  have hplain : ∀ entry ∈ m, ∃ key v, entry = (.text key, v) ∧ key.toList.head? ≠ some '_' := by
    rintro ⟨k, v⟩ hentry
    obtain ⟨key, rfl, hfound⟩ := (h.keyed.mem_iff k v).mp hentry
    exact ⟨key, v, rfl, h.plain key v hfound⟩
  unfold Options.ofArguments
  generalize Options.usual = o
  clear h
  induction m with
  | nil => rfl
  | cons entry m ih =>
      obtain ⟨key, v, rfl, hkey⟩ := hplain entry List.mem_cons_self
      rw [List.foldl_cons]
      simp only [Options.take_eq hkey]
      exact ih fun other hother => hplain other (List.mem_cons_of_mem _ hother)

/-- An object in which nothing is found is empty. -/
theorem IsObject.eq_nil {m : Mapping} (h : IsObject m) (hnone : ∀ key, m.get? key = none) :
    m = [] := by
  rw [List.eq_nil_iff_forall_not_mem]
  rintro ⟨k, v⟩ hentry
  obtain ⟨key, -, hfound⟩ := (h.keyed.mem_iff k v).mp hentry
  rw [hnone key] at hfound
  cases hfound

/-- One object has what another has, laid over what a third one has. -/
structure Covers (upper under made : Mapping) : Prop where
  get : ∀ key, made.get? key = overlay (upper.get? key) (under.get? key)
  first : ∀ p, firstKey p made = (firstKey p under).or (firstKey p upper)

/-- Of two layers that give objects or nothing, the one laid over the other does, too. -/
theorem Gives.overlay {x y : Option Value} {upper under : Mapping} (hx : Gives x upper)
    (hy : Gives y under) : ∃ made, Gives (overlay x y) made ∧ Covers upper under made := by
  cases hx with
  | nothing => exact ⟨under, hy, fun key => rfl, fun p => (Option.or_none).symm⟩
  | object hupper =>
      cases hy with
      | nothing =>
          rw [overlay_none_right]
          exact ⟨upper, .object hupper, fun key => (overlay_none_right _).symm, fun p => rfl⟩
      | object hunder =>
          have hcover : Settings.overlay (some (.dict upper)) (some (.dict under)) =
              some (.dict (Layer.merge under upper)) := by
            simp only [Settings.overlay, Layer.cover]
          rw [hcover]
          exact ⟨_, .object (hupper.merge hunder),
            fun key => Layer.get?_merge hupper.keyed key under,
            fun p => firstKey_merge p hupper.keyed under⟩

/-- An object has just what the objects of an offer have together. -/
structure Offer.StandsFor (offer : Offer) (made : Mapping) : Prop where
  get : ∀ key, made.get? key =
    overlay (overlay (offer.arguments.get? key) (offer.process.get? key)) (offer.file.get? key)
  first : ∀ p, firstKey p made =
    (firstKey p offer.file).or ((firstKey p offer.process).or (firstKey p offer.arguments))

/-- For an offer of nothing there is only the empty object. -/
theorem Offer.StandsFor.eq_nil {made : Mapping} (h : Offer.nothing.StandsFor made)
    (hmade : IsObject made) : made = [] :=
  hmade.eq_nil fun key => h.get key

/-- What an offer has under a key stands there in its object. -/
theorem Offer.StandsFor.unlessObject_get? {offer : Offer} {made : Mapping}
    (h : offer.StandsFor made) (key : String) :
    UnlessObject (made.get? key) (offer.get? key) := by
  rw [h.get, Offer.get?, ← Option.or_assoc]
  exact .overlay (.overlay (.refl _) (.refl _)) (.refl _)

/-- An offer has an object that stands for it, and this is what the merged layers hold; unless null
among the arguments is all that they hold. -/
theorem Offered.exists_standsFor {naming : Naming} {o : Options} {e : Environment}
    {arguments : Mapping} {slot : Slot} {offer : Offer}
    (h : Offered naming o e arguments slot offer) {merged : Option Value}
    (hmerged : merged = overlay (overlay (naming.argument? slot.name arguments)
      (Source.find ⟨o, e.processView o⟩ slot)) (Source.find ⟨o, e.fileView o⟩ slot)) :
    ∃ made, IsObject made ∧ offer.StandsFor made ∧
      (merged = some (.dict made) ∨ made = [] ∧ (merged = none ∨ merged = some .null)) := by
  cases h with
  | objects harguments hprocess hfile =>
      obtain ⟨above, habove, hupper⟩ := harguments.overlay hprocess
      obtain ⟨made, hmade, hwhole⟩ := habove.overlay hfile
      have hstands : offer.StandsFor made :=
        ⟨fun key => by rw [hwhole.get, hupper.get], fun p => by rw [hwhole.first, hupper.first]⟩
      rw [← hmerged] at hmade
      cases hmade with
      | nothing => exact ⟨[], isObject_nil, hstands, .inr ⟨rfl, .inl rfl⟩⟩
      | object hobject => exact ⟨made, hobject, hstands, .inl rfl⟩
  | withdrawn hnull =>
      refine ⟨[], isObject_nil, ⟨fun key => rfl, fun p => rfl⟩, .inr ⟨rfl, .inr ?_⟩⟩
      rw [hmerged, hnull]
      simp only [overlay, Layer.cover]

/-! ## Looking up names -/

/-- What an offer has for a name is the argument for it in the object that stands for the offer. -/
theorem Offer.StandsFor.unlessObject_argument? {offer : Offer} {made : Mapping}
    (h : offer.StandsFor made) (hmade : IsObject made) (name : String) :
    UnlessObject (argument? name made) (offer.entry .anyCase name) := by
  have hvariant : firstKey (lower · = name) made = offer.variant? name := h.first _
  have hfind : argument? name made =
      (made.get? name).or ((offer.variant? name).bind made.get?) := by
    rw [← hvariant, ← find?_eq_firstKey hmade.keyed]
    exact Option.orElse_eq_or
  rw [hfind]
  refine (h.unlessObject_get? name).or ?_
  cases offer.variant? name with
  | none => exact .refl _
  | some key => exact h.unlessObject_get? key

/-- What the variables hold for a plain field is the text of the one with its name. -/
theorem find_plain (vars : EnvFile.Variables) (name : String) :
    Source.find ⟨.usual, vars⟩ ⟨name, none⟩ = ownVariable vars name := by
  have hname : (Source.mk .usual vars).nameOf ⟨name, none⟩ = lower name := by
    have hlead : Options.usual.lead ++ name = name := String.empty_append
    unfold Source.nameOf
    rw [hlead]
    rfl
  unfold Source.find ownVariable
  rw [hname]
  rcases vars.reverse.lookup (lower name) with _ | _ | text <;> rfl

/-! ## Layers of slots -/

/-- The entries that slots get have distinct keys if the slots have distinct names. -/
theorem isKeyed_slots {slots : List Slot} (hnames : (slots.map Slot.name).Nodup)
    (f : Slot → Option Value) :
    Mapping.IsKeyed (slots.filterMap fun slot => (f slot).map fun v => (.text slot.name, v)) := by
  refine ⟨(slots.filter fun slot => (f slot).isSome).map Slot.name, ?_,
    hnames.sublist (List.filter_sublist.map _)⟩
  clear hnames
  induction slots with
  | nil => rfl
  | cons slot slots ih =>
      cases hslot : f slot with
      | none => simpa [hslot] using ih
      | some v => simpa [hslot] using ih

/-- Each slot finds its own entry. -/
theorem get?_slots {slots : List Slot} (hnames : (slots.map Slot.name).Nodup)
    (f : Slot → Option Value) {slot : Slot} (hslot : slot ∈ slots) :
    Mapping.get? slot.name
      (slots.filterMap fun slot => (f slot).map fun v => (.text slot.name, v)) = f slot := by
  ext v
  have hmem := (isKeyed_slots hnames f).mem_iff (.text slot.name) v
  have hfound : ∀ m : Mapping, (∃ key, Value.text slot.name = .text key ∧ m.get? key = some v) ↔
      m.get? slot.name = some v := fun m =>
    ⟨fun ⟨_, heq, h⟩ => by cases heq; exact h, fun h => ⟨_, rfl, h⟩⟩
  rw [hfound] at hmem
  rw [← hmem, List.mem_filterMap]
  constructor
  · rintro ⟨other, hother, heq⟩
    obtain ⟨w, hw, heq⟩ := Option.map_eq_some_iff.mp heq
    obtain ⟨hname, rfl⟩ := Prod.mk.inj heq
    have hsame : other = slot :=
      List.inj_on_of_nodup_map hnames hother hslot (Value.text.inj hname)
    rw [← hsame, hw]
  · intro h
    exact ⟨slot, hslot, by rw [h]; rfl⟩

/-- What the merged layers hold for a slot. -/
theorem get?_layered (e : Environment) {slots : List Slot} (hnames : (slots.map Slot.name).Nodup)
    {slot : Slot} (hslot : slot ∈ slots) (arguments : Mapping) :
    Mapping.get? slot.name (layered e slots arguments) =
      overlay (overlay (argument? slot.name arguments)
        (Source.find ⟨.ofArguments arguments, e.processView (.ofArguments arguments)⟩ slot))
        (Source.find ⟨.ofArguments arguments, e.fileView (.ofArguments arguments)⟩ slot) := by
  have harguments := isKeyed_slots hnames fun slot => argument? slot.name arguments
  have hprocess := isKeyed_slots hnames
    (Source.find ⟨.ofArguments arguments, e.processView (.ofArguments arguments)⟩)
  unfold layered argumentLayer Source.layer
  dsimp only
  rw [Layer.get?_merge (isKeyed_merge harguments hprocess), Layer.get?_merge harguments]
  rw [get?_slots hnames _ hslot, get?_slots hnames _ hslot, get?_slots hnames _ hslot]

/-- What the merged layers hold for a plain setting where an object stands for an offer is what
counts for the setting, unless it is an object. -/
theorem Offer.StandsFor.unlessObject_layered {offer : Offer} {made : Mapping}
    (h : offer.StandsFor made) (hmade : IsObject made) {α : Type} {m : Model α}
    (hnames : m.fields.names.Nodup) (e : Environment) {name : String}
    (hname : name ∈ m.fields.names) :
    UnlessObject ((layered e (plainSlots m) made).get? name) (offer.chosen .anyCase e name) := by
  have hslots : ((plainSlots m).map Slot.name).Nodup := by
    simpa [plainSlots, Function.comp_def] using hnames
  have hslot : (⟨name, none⟩ : Slot) ∈ plainSlots m := List.mem_map.mpr ⟨name, hname, rfl⟩
  have hfound := get?_layered e hslots hslot made
  rw [hmade.ofArguments_eq, find_plain, find_plain] at hfound
  rw [hfound]
  unfold Offer.chosen
  rw [← Option.or_assoc]
  exact .overlay (.overlay (h.unlessObject_argument? hmade name) (.refl _)) (.refl _)

/-! ## Settings that are read -/

/-- A reader that is there for plain values refuses objects. -/
def IsPlain {α : Type} (read : Reader α) : Prop := ∀ entries a, read (.dict entries) ≠ .ok a

/-- Numbers with a point are read from no mapping. -/
theorem isPlain_readFloat : IsPlain readFloat := by rintro entries a ⟨⟩

/-- Texts are read from no mapping. -/
theorem isPlain_readText : IsPlain readText := by rintro entries a ⟨⟩

/-- What was read where a value is another one unless it is an object, was read from that one. -/
theorem UnlessObject.settle_eq_ok {α : Type} {read : Reader α} (hread : IsPlain read) {d a : α}
    {x y : Option Value} (h : UnlessObject x y) (hx : settle d read x = .ok a) :
    settle d read y = .ok a := by
  rcases h with rfl | ⟨entries, rfl⟩
  · exact hx
  · exact absurd hx (hread entries a)

/-- A field that has one name only is read from what is found under it. -/
theorem settle_of_check {α : Type} {f : Config.Field α} {d : α} (hname : f.name = f.key)
    (hdefault : f.default? = some d) {m : Mapping} {p : α × List String}
    (h : f.check m = .ok p) : settle d f.read (m.get? f.key) = .ok p.1 := by
  unfold Field.check Field.lookup at h
  rw [hname] at h
  cases hfound : m.get? f.key with
  | some v =>
      rw [hfound] at h
      obtain ⟨a, hread, rfl⟩ := map_eq_ok.mp h
      exact under_eq_ok.mp hread
  | none =>
      rw [hfound] at h
      simp only [Option.map_none, hdefault] at h
      cases h
      rfl

/-- The settings of the client are read from the merged layers. -/
theorem settle_timeout {e : Environment} {entries : Mapping} {s : HttpSettings}
    (h : readLayered HttpSettings.model e entries = .ok s) :
    settle 10.0 readFloat ((layered e (plainSlots HttpSettings.model) entries).get?
      "alert_http_timeout_seconds") = .ok s.timeoutSeconds := by
  obtain ⟨d, hread, rfl⟩ := map_eq_ok.mp h
  obtain ⟨p, hcheck, rfl⟩ := map_eq_ok.mp hread
  obtain ⟨_, _, htimeout, _⟩ := check_cons_eq_ok hcheck
  exact settle_of_check rfl rfl htimeout

/-- The settings of the log are read from the merged layers. -/
theorem settle_level_format {e : Environment} {entries : Mapping} {s : LoggingSettings}
    (h : readLayered LoggingSettings.model e entries = .ok s) :
    settle "INFO" readText ((layered e (plainSlots LoggingSettings.model) entries).get?
        "log_level") = .ok s.level ∧
      settle "console" readText ((layered e (plainSlots LoggingSettings.model) entries).get?
        "log_format") = .ok s.format := by
  obtain ⟨d, hread, rfl⟩ := map_eq_ok.mp h
  obtain ⟨p, hcheck, rfl⟩ := map_eq_ok.mp hread
  obtain ⟨_, _, hlevel, hrest⟩ := check_cons_eq_ok hcheck
  obtain ⟨_, _, hformat, _⟩ := check_cons_eq_ok hrest
  exact ⟨settle_of_check rfl rfl hlevel, settle_of_check rfl rfl hformat⟩

/-! ## Settings that are loaded -/

/-- Two steps of loading give a record if each of them does. -/
theorem andThen_eq_ok {α β : Type} {l : Loaded α} {next : α → Loaded β} {b : β} :
    (l.andThen next).result = .ok b ↔ ∃ a, l.result = .ok a ∧ (next a).result = .ok b := by
  unfold Loaded.andThen
  cases hl : l.result with
  | error e => simp
  | ok a => simp

/-- What was checked is a record if there are no issues. -/
theorem ofChecked_eq_ok {α : Type} {x : Checked α} {a : α} :
    (Loaded.ofChecked x).result = .ok a ↔ x = .ok a := mapError_eq_ok

/-- A record is loaded if the files can be read and then the record. -/
theorem load_eq_ok {α : Type} {m : Model α} {e : Environment} {arguments : Mapping} {a : α} :
    (load m e arguments).result = .ok a ↔
      (visit e arguments).result = .ok () ∧ readLayered m e arguments = .ok a := by
  unfold load
  rw [andThen_eq_ok]
  constructor
  · rintro ⟨u, hvisit, hread⟩
    exact ⟨hvisit, ofChecked_eq_ok.mp hread⟩
  · rintro ⟨hvisit, hread⟩
    exact ⟨(), hvisit, ofChecked_eq_ok.mpr hread⟩

/-- A record in a field: what the merged layers hold for it was visited and read, and where that
gave none, the record was loaded. -/
structure Settled {α : Type} (m : Model α) (e : Environment) (merged : Option Value) (a : α) :
    Prop where
  visited : (visitNested e merged).result = .ok ()
  loaded : ∃ a?, settle none (readNested m e) merged = .ok a? ∧ (orLoad m e a?).result = .ok a

/-- Where the layers hold an object, the record is read from it. -/
theorem Settled.of_object {α : Type} {m : Model α} {e : Environment} {entries : Mapping} {a : α}
    (h : Settled m e (some (.dict entries)) a) :
    (visit e entries).result = .ok () ∧ readLayered m e entries = .ok a := by
  obtain ⟨hvisited, a?, hread, hload⟩ := h
  obtain ⟨b, hlayers, rfl⟩ := map_eq_ok.mp hread
  cases hload
  exact ⟨hvisited, hlayers⟩

/-- Where they hold nothing, or null, it is loaded. -/
theorem Settled.of_nothing {α : Type} {m : Model α} {e : Environment} {merged : Option Value}
    {a : α} (h : Settled m e merged a) (hmerged : merged = none ∨ merged = some .null) :
    (load m e []).result = .ok a := by
  obtain ⟨-, a?, hread, hload⟩ := h
  rcases hmerged with rfl | rfl <;>
  · cases hread
    exact hload

/-- Loading settles both records. -/
theorem settled_of_load {e : Environment} {arguments : Mapping} {s : AppSettings}
    (h : (AppSettings.load e arguments).result = .ok s) :
    Settled HttpSettings.model e ((layered e appSlots arguments).get? "http") s.http ∧
      Settled LoggingSettings.model e ((layered e appSlots arguments).get? "logging")
        s.logging := by
  unfold AppSettings.load at h
  obtain ⟨_, _, h⟩ := andThen_eq_ok.mp h
  obtain ⟨_, hhttp, h⟩ := andThen_eq_ok.mp h
  obtain ⟨_, hlogging, h⟩ := andThen_eq_ok.mp h
  obtain ⟨draft, hdraft, h⟩ := andThen_eq_ok.mp h
  obtain ⟨http, hloadHttp, h⟩ := andThen_eq_ok.mp h
  obtain ⟨logging, hloadLogging, h⟩ := andThen_eq_ok.mp h
  cases h
  obtain ⟨p, hcheck, rfl⟩ := map_eq_ok.mp (ofChecked_eq_ok.mp hdraft)
  obtain ⟨_, _, _, hcheck⟩ := check_cons_eq_ok hcheck
  obtain ⟨_, _, _, hcheck⟩ := check_cons_eq_ok hcheck
  obtain ⟨_, _, hreadHttp, hcheck⟩ := check_cons_eq_ok hcheck
  obtain ⟨_, _, hreadLogging, _⟩ := check_cons_eq_ok hcheck
  exact ⟨⟨hhttp, _, settle_of_check rfl rfl hreadHttp, hloadHttp⟩,
    ⟨hlogging, _, settle_of_check rfl rfl hreadLogging, hloadLogging⟩⟩

/-- An object that stands for what is given for a record is what the record is read from; where
nothing is given, the record is the one that is loaded without the rest. -/
theorem Offered.exists_readLayered {α : Type} {m : Model α} {e : Environment}
    {arguments : Mapping} {slot : Slot} (hslot : slot ∈ appSlots) {a : α}
    (hsettled : Settled m e ((layered e appSlots arguments).get? slot.name) a) {offer : Offer}
    (h : Offered .anyCase (.ofArguments arguments) e arguments slot offer) :
    (∃ made, IsObject made ∧ offer.StandsFor made ∧ readLayered m e made = .ok a) ∧
      (offer = .nothing → (load m e []).result = .ok a) := by
  obtain ⟨made, hmade, hstands, hmerged | ⟨rfl, hmerged⟩⟩ :=
    h.exists_standsFor (get?_layered e (by decide) hslot arguments)
  · -- An object is left, perhaps an empty one.
    rw [hmerged] at hsettled
    obtain ⟨hvisit, hread⟩ := hsettled.of_object
    refine ⟨⟨made, hmade, hstands, hread⟩, ?_⟩
    rintro rfl
    obtain rfl := hstands.eq_nil hmade
    exact load_eq_ok.mpr ⟨hvisit, hread⟩
  · -- The record was loaded, which reads it from the empty object.
    have hload := hsettled.of_nothing hmerged
    exact ⟨⟨[], hmade, hstands, (load_eq_ok.mp hload).2⟩, fun _ => hload⟩

/-- Whenever settings can be loaded, the law of layers holds. -/
theorem AppSettings.layered_of_load {e : Environment} {arguments : Mapping} {s : AppSettings}
    (h : (AppSettings.load e arguments).result = .ok s) :
    Layered .anyCase (.ofArguments arguments) e arguments s := by
  obtain ⟨hhttp, hlogging⟩ := settled_of_load h
  have hhttpSlot : httpSlot ∈ appSlots := by decide
  have hloggingSlot : loggingSlot ∈ appSlots := by decide
  refine ⟨fun offer hoffer => ?_, fun offer hoffer => ?_, fun offer hoffer => ?_,
    fun hoffer => (hoffer.exists_readLayered hhttpSlot hhttp).2 rfl,
    fun hoffer => (hoffer.exists_readLayered hloggingSlot hlogging).2 rfl⟩
  · obtain ⟨⟨made, hmade, hstands, hread⟩, -⟩ := hoffer.exists_readLayered hhttpSlot hhttp
    exact (hstands.unlessObject_layered hmade (by decide) e (by decide)).settle_eq_ok
      isPlain_readFloat (settle_timeout hread)
  · obtain ⟨⟨made, hmade, hstands, hread⟩, -⟩ := hoffer.exists_readLayered hloggingSlot hlogging
    exact (hstands.unlessObject_layered hmade (by decide) e (by decide)).settle_eq_ok
      isPlain_readText (settle_level_format hread).1
  · obtain ⟨⟨made, hmade, hstands, hread⟩, -⟩ := hoffer.exists_readLayered hloggingSlot hlogging
    exact (hstands.unlessObject_layered hmade (by decide) e (by decide)).settle_eq_ok
      isPlain_readText (settle_level_format hread).2

/-! ## Settings in parts -/

/-- A variable with a part of the settings of the log, and one with the level alone. -/
def partsEnvironment : Environment :=
  ⟨[("LOGGING", "\x7b\"log_format\": \"json\"\x7d"), ("LOG_LEVEL", "ERROR")], none⟩

/-- Another part among the arguments. -/
def partsArguments : Mapping := [(.text "logging", .dict [(.text "log_level", .text "DEBUG")])]

/-- What is given for the settings of the log in this way. -/
def partsOffer : Offer :=
  ⟨[(.text "log_level", .text "DEBUG")], [(.text "log_format", .text "json")], []⟩

/-- The settings that come of it. -/
def partsSettings : AppSettings := ⟨"development", 8, ⟨10.0⟩, ⟨"DEBUG", "json"⟩⟩

/-- The object in the variable. -/
theorem find_partsEnvironment :
    Source.find ⟨.usual, partsEnvironment.processView .usual⟩ loggingSlot =
      some (.dict partsOffer.process) := by
  cbv

/-- The two parts make one object. -/
theorem layered_parts :
    layered partsEnvironment appSlots partsArguments = [(.text "logging",
      .dict [(.text "log_format", .text "json"), (.text "log_level", .text "DEBUG")])] := by
  have hlayer : Source.layer ⟨.usual, partsEnvironment.processView .usual⟩ appSlots =
      [(.text "logging", .dict partsOffer.process)] := by
    have hothers : ∀ slot ∈ [⟨"env", none⟩, ⟨"alert_utc_offset_hours", none⟩, httpSlot],
        Source.find ⟨.usual, partsEnvironment.processView .usual⟩ slot = none := by
      intro slot hslot
      fin_cases hslot <;> rfl
    change List.filterMap _
      ([⟨"env", none⟩, ⟨"alert_utc_offset_hours", none⟩, httpSlot] ++ [loggingSlot]) = _
    rw [List.filterMap_append, List.filterMap_eq_nil_iff.mpr fun slot hslot => by
      rw [hothers slot hslot]; rfl]
    simp only [List.filterMap_cons, List.filterMap_nil, find_partsEnvironment]
    rfl
  change Layer.merge _ (Layer.merge
    (Source.layer ⟨.usual, partsEnvironment.processView .usual⟩ appSlots) _) = _
  rw [hlayer]
  rfl

/-- The level comes from the arguments, though it has a variable of its own, and the format from the
object in the other variable. -/
theorem partsSettings_layered :
    (AppSettings.load partsEnvironment partsArguments).result = .ok partsSettings ∧
      Offered .anyCase (.ofArguments partsArguments) partsEnvironment partsArguments loggingSlot
        partsOffer ∧
      Layered .anyCase (.ofArguments partsArguments) partsEnvironment partsArguments
        partsSettings := by
  have hload : (AppSettings.load partsEnvironment partsArguments).result = .ok partsSettings := by
    unfold AppSettings.load
    rw [layered_parts]
    rfl
  have harguments : IsObject partsOffer.arguments := isObject_singleton (by decide) _
  have hprocess : IsObject partsOffer.process := isObject_singleton (by decide) _
  have hfind := find_partsEnvironment ▸ Gives.object hprocess
  exact ⟨hload, .objects (.object harguments) hfind .nothing, AppSettings.layered_of_load hload⟩

/-! ## Where the law does not hold -/

/-- No variables and no file. -/
def bareEnvironment : Environment := ⟨[], none⟩

/-- An object among the arguments with a key in capitals. -/
def capitalArguments : Mapping := [(.text "logging", .dict [(.text "LOG_LEVEL", .text "DEBUG")])]

/-- A variable with an object and one with the level alone. -/
def levelEnvironment : Environment :=
  ⟨[("LOGGING", "\x7b\"log_level\": \"DEBUG\"\x7d"), ("LOG_LEVEL", "ERROR")], none⟩

/-- An argument that says what stands in front of the names of variables. -/
def leadArguments : Mapping := [(.text "_env_prefix", .text "x_")]

/-- The usual settings but for the level of the log. -/
def settingsAt (level : String) : AppSettings :=
  ⟨"development", 8, ⟨10.0⟩, ⟨level, "console"⟩⟩

/-- A key in capitals counts, though it is not the name as it is written.  With an option for the
names of variables, the object under the usual name does not count, whereas the level under its
usual name does. -/
theorem not_layered :
    ((AppSettings.load bareEnvironment capitalArguments).result = .ok (settingsAt "DEBUG") ∧
      ¬ Layered .asWritten .usual bareEnvironment capitalArguments (settingsAt "DEBUG")) ∧
    (AppSettings.load levelEnvironment leadArguments).result = .ok (settingsAt "ERROR") ∧
      ∀ naming, ¬ Layered naming .usual levelEnvironment leadArguments (settingsAt "ERROR") := by
  refine ⟨⟨rfl, fun h => ?_⟩, rfl, fun naming h => ?_⟩
  · -- As it is written, the name is not in the object, and the default would hold.
    have hobject : IsObject [(.text "LOG_LEVEL", .text "DEBUG")] :=
      isObject_singleton (by decide) _
    have hlevel : (.ok "INFO" : Checked String) = .ok "DEBUG" :=
      h.level ⟨_, [], []⟩ (.objects (.object hobject) .nothing .nothing)
    exact absurd (Except.ok.inj hlevel) (by decide)
  · -- Under the usual options the variable with the object would count.
    have hobject : IsObject [(.text "log_level", .text "DEBUG")] :=
      isObject_singleton (by decide) _
    have hfind : Source.find ⟨.usual, levelEnvironment.processView .usual⟩ loggingSlot =
        some (.dict [(.text "log_level", .text "DEBUG")]) := by cbv
    have hgiven : Offered naming .usual levelEnvironment leadArguments loggingSlot
        ⟨[], [(.text "log_level", .text "DEBUG")], []⟩ := by
      refine .objects ?_ (hfind ▸ .object hobject) .nothing
      cases naming <;> exact .nothing
    have hlevel : (.ok "DEBUG" : Checked String) = .ok "ERROR" := by
      have hsettled := h.level _ hgiven
      cases naming <;> exact hsettled
    exact absurd (Except.ok.inj hlevel) (by decide)

end Tocsin.Settings
