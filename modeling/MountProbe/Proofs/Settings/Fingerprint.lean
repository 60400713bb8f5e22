import MountProbe.Proofs.Failing
import MountProbe.Proofs.Json.Unique
import MountProbe.Proofs.Path.Text
import MountProbe.Settings.Print

namespace MountProbe

def Text.ofHexDigits (cs : List Char) : Nat :=
  cs.foldl (fun n c => n * 16 + Toml.hexValue c) 0

theorem Text.ofHexDigits_toDigits (n : Nat) : ofHexDigits (Nat.toDigits 16 n) = n := by
  induction n using Nat.strongRecOn with
  | ind n ih =>
    rw [Nat.toDigits_eq_if (by decide)]
    split
    · rename_i small
      exact (Nat.zero_add _).trans (Toml.hexValue_digitChar n small)
    · rename_i large
      have digit := Toml.hexValue_digitChar (n % 16) (Nat.mod_lt n (by decide))
      have before := ih (n / 16) (by omega)
      unfold ofHexDigits at before ⊢
      rw [List.foldl_append, before, List.foldl_cons, List.foldl_nil, digit]
      omega

theorem Text.ofHexDigits_zeros (n : Nat) (cs : List Char) :
    ofHexDigits (List.replicate n '0' ++ cs) = ofHexDigits cs := by
  induction n with
  | zero => rfl
  | succ n ih => exact ih

theorem Text.hex16_injective {m n : Nat} (same : hex16 m = hex16 n) : m = n := by
  have digits := congrArg (fun s => ofHexDigits s.toList) same
  simpa only [hex16, String.toList_ofList, ofHexDigits_zeros, ofHexDigits_toDigits] using digits

theorem Text.hex16_ne_empty (n : Nat) : hex16 n ≠ "" := by
  intro none
  have digits := congrArg String.toList none
  rw [hex16, String.toList_ofList] at digits
  exact Nat.toDigits_ne_nil (List.append_eq_nil_iff.mp digits).2

theorem CollectorSettings.toJson_injective {c d : CollectorSettings} (same : c.toJson = d.toJson) :
    c = d := by
  cases c
  cases d
  simpa [toJson] using same

theorem LoggingSettings.toJson_injective {l m : LoggingSettings} (same : l.toJson = m.toJson) :
    l = m := by
  cases l
  cases m
  simpa [toJson] using same

namespace PathSettings

def areTexts (p : PathSettings) : Bool :=
  p.configFile.isText && p.procPath.isText && p.rootfsPath.isText && p.jsonlLog.isText

theorem toJson_eq_ok {p : PathSettings} {v : Json} (written : p.toJson = .ok v) :
    ∃ c s r l, p = ⟨.ofString c, .ofString s, .ofString r, .ofString l⟩ ∧
      v = .object [("config_file", .text c), ("proc_path", .text s), ("rootfs_path", .text r),
        ("jsonl_log", .text l)] := by
  unfold toJson at written
  simp only [bind_eq_ok, Mount.Label.pathJson_eq_ok] at written
  obtain ⟨_, ⟨c, config, rfl⟩, _, ⟨s, proc, rfl⟩, _, ⟨r, rootfs, rfl⟩, _, ⟨l, log, rfl⟩, object⟩ :=
    written
  cases p
  cases config
  cases proc
  cases rootfs
  cases log
  cases object
  exact ⟨c, s, r, l, rfl, rfl⟩

theorem toJson_of_texts {p : PathSettings} (texts : p.areTexts = true) :
    ∃ v, p.toJson = .ok v := by
  simp only [areTexts, Bool.and_eq_true] at texts
  obtain ⟨⟨⟨config, proc⟩, rootfs⟩, log⟩ := texts
  obtain ⟨c, config⟩ := Mount.Label.pathJson_of_text config
  obtain ⟨s, proc⟩ := Mount.Label.pathJson_of_text proc
  obtain ⟨r, rootfs⟩ := Mount.Label.pathJson_of_text rootfs
  obtain ⟨l, log⟩ := Mount.Label.pathJson_of_text log
  exact ⟨_, by rw [toJson, config, proc, rootfs, log]; rfl⟩

theorem toJson_injective {p q : PathSettings} {v : Json} (first : p.toJson = .ok v)
    (second : q.toJson = .ok v) : p = q := by
  obtain ⟨c, s, r, l, rfl, rfl⟩ := toJson_eq_ok first
  obtain ⟨c', s', r', l', rfl, same⟩ := toJson_eq_ok second
  cases same
  rfl

end PathSettings

namespace WatchSettings

def isText (w : WatchSettings) : Bool :=
  w.outputFile.all Path.isText

theorem toJson_eq_ok {w : WatchSettings} {v : Json} (written : w.toJson = .ok v) :
    (w.outputFile = none ∧ v = .object [("scrape_interval_ms", .whole w.scrapeIntervalMs),
      ("output_file", .null)]) ∨
    ∃ s, w.outputFile = some (.ofString s) ∧ v = .object [
      ("scrape_interval_ms", .whole w.scrapeIntervalMs), ("output_file", .text s)] := by
  obtain ⟨interval, output⟩ := w
  cases output with
  | none =>
    cases written
    exact .inl ⟨rfl, rfl⟩
  | some p =>
    obtain ⟨_, path, object⟩ := bind_eq_ok.mp written
    obtain ⟨s, rfl, rfl⟩ := Mount.Label.pathJson_eq_ok.mp path
    cases object
    exact .inr ⟨s, rfl, rfl⟩

theorem toJson_of_text {w : WatchSettings} (text : w.isText = true) : ∃ v, w.toJson = .ok v := by
  obtain ⟨interval, output⟩ := w
  cases output with
  | none => exact ⟨_, rfl⟩
  | some p =>
    obtain ⟨v, path⟩ := Mount.Label.pathJson_of_text text
    exact ⟨_, bind_eq_ok.mpr ⟨v, path, rfl⟩⟩

theorem toJson_injective {w u : WatchSettings} {v : Json} (first : w.toJson = .ok v)
    (second : u.toJson = .ok v) : w = u := by
  obtain ⟨interval, output⟩ := w
  obtain ⟨interval', output'⟩ := u
  rcases toJson_eq_ok first with ⟨rfl, rfl⟩ | ⟨s, rfl, rfl⟩
  · rcases toJson_eq_ok second with ⟨rfl, same⟩ | ⟨t, rfl, same⟩
    · cases same
      rfl
    · cases same
  · rcases toJson_eq_ok second with ⟨rfl, same⟩ | ⟨t, rfl, same⟩
    · cases same
    · cases same
      rfl

end WatchSettings

namespace Settings

def isText (s : Settings) : Bool :=
  s.paths.areTexts && s.watch.isText

theorem toJson_eq_ok {s : Settings} {v : Json} (written : s.toJson = .ok v) :
    ∃ p w, s.paths.toJson = .ok p ∧ s.watch.toJson = .ok w ∧
      v = .object [("collector", s.collector.toJson), ("paths", p),
        ("logging", s.logging.toJson), ("daemon", w)] := by
  unfold toJson at written
  obtain ⟨p, paths, rest⟩ := bind_eq_ok.mp written
  obtain ⟨w, watch, object⟩ := bind_eq_ok.mp rest
  cases object
  exact ⟨p, w, paths, watch, rfl⟩

theorem toJson_of_text {s : Settings} (text : s.isText = true) : ∃ v, s.toJson = .ok v := by
  obtain ⟨paths, watch⟩ := Bool.and_eq_true_iff.mp text
  obtain ⟨p, paths⟩ := PathSettings.toJson_of_texts paths
  obtain ⟨w, watch⟩ := WatchSettings.toJson_of_text watch
  exact ⟨_, bind_eq_ok.mpr ⟨p, paths, bind_eq_ok.mpr ⟨w, watch, rfl⟩⟩⟩

theorem toJson_injective {s t : Settings} {v : Json} (first : s.toJson = .ok v)
    (second : t.toJson = .ok v) : s = t := by
  obtain ⟨p, w, paths, watch, rfl⟩ := toJson_eq_ok first
  obtain ⟨p', w', paths', watch', same⟩ := toJson_eq_ok second
  simp only [Json.object.injEq, List.cons.injEq, Prod.mk.injEq, true_and, and_true] at same
  obtain ⟨collector, rfl, logging, rfl⟩ := same
  have collectors := CollectorSettings.toJson_injective collector
  have loggings := LoggingSettings.toJson_injective logging
  have paths := PathSettings.toJson_injective paths paths'
  have watches := WatchSettings.toJson_injective watch watch'
  cases s
  cases t
  cases collectors
  cases loggings
  cases paths
  cases watches
  rfl

theorem isPlain_toJson {s : Settings} {v : Json} (written : s.toJson = .ok v) :
    v.isPlain = true := by
  obtain ⟨p, w, paths, watch, rfl⟩ := toJson_eq_ok written
  obtain ⟨c, f, r, l, -, rfl⟩ := PathSettings.toJson_eq_ok paths
  rcases WatchSettings.toJson_eq_ok watch with ⟨-, rfl⟩ | ⟨o, -, rfl⟩
  · rfl
  · rfl

theorem render_injective {s t : Settings} {v w : Json} (first : s.toJson = .ok v)
    (second : t.toJson = .ok w) (same : v.render = w.render) : s = t := by
  obtain rfl := Json.render_injective (isPlain_toJson first) (isPlain_toJson second) same
  exact toJson_injective first second

/-- The hashes of what is written of two settings collide only if that is the same. -/
def HashedApart (s t : Settings) : Prop :=
  ∀ v w, s.toJson = .ok v → t.toJson = .ok w →
    fnv1a (Text.utf8 v.render) = fnv1a (Text.utf8 w.render) → v.render = w.render

theorem fingerprint_eq_ok {s : Settings} {h : String} (fingerprinted : s.fingerprint = .ok h) :
    ∃ v, s.toJson = .ok v ∧ h = Text.hex16 (fnv1a (Text.utf8 v.render)).toNat := by
  obtain ⟨v, written, hash⟩ := bind_eq_ok.mp fingerprinted
  cases hash
  exact ⟨v, written, rfl⟩

theorem fingerprint_ne_empty {s : Settings} {h : String} (fingerprinted : s.fingerprint = .ok h) :
    h ≠ "" := by
  obtain ⟨v, -, rfl⟩ := fingerprint_eq_ok fingerprinted
  exact Text.hex16_ne_empty _

theorem fingerprint_of_text {s : Settings} (text : s.isText = true) :
    ∃ h, s.fingerprint = .ok h := by
  obtain ⟨v, written⟩ := toJson_of_text text
  exact ⟨_, bind_eq_ok.mpr ⟨v, written, rfl⟩⟩

theorem toJson_of_no_text {s : Settings} (no_text : s.paths.configFile.isText = false) :
    s.toJson = .error unwritablePath := by
  rw [toJson, PathSettings.toJson, Mount.Label.pathJson_of_no_text no_text]
  rfl

theorem fingerprint_of_no_text {s : Settings} (no_text : s.paths.configFile.isText = false) :
    s.fingerprint = .error unwritablePath := by
  rw [fingerprint, toJson_of_no_text no_text]
  rfl

theorem fingerprint_injective {s t : Settings} {h : String} (apart : HashedApart s t)
    (first : s.fingerprint = .ok h) (second : t.fingerprint = .ok h) : s = t := by
  obtain ⟨v, written, rfl⟩ := fingerprint_eq_ok first
  obtain ⟨w, written', same⟩ := fingerprint_eq_ok second
  have hashes := UInt64.toNat_inj.mp (Text.hex16_injective same)
  exact render_injective written written' (apart v w written written' hashes)

theorem hashedApart_of_ne {s t : Settings} (other : s.fingerprint ≠ t.fingerprint) :
    HashedApart s t := by
  intro v w written written' same
  apply absurd _ other
  rw [fingerprint, fingerprint, written, written']
  exact congrArg (fun h : UInt64 => Except.ok (Text.hex16 h.toNat)) same

end Settings

end MountProbe
