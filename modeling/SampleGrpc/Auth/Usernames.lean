import SampleGrpc.Server.Effect

/-!
# Usernames

`internal/auth/usernames.go` and the pattern of `internal/auth/service.go` that player-chosen
names must match. Every generated handle matches it too (`generateUsername_valid`).
-/

namespace SampleGrpc

def adjectives : List String :=
  ["Amber", "Ancient", "Arctic", "Ashen", "Blazing", "Blighted", "Bold", "Brave", "Bronze",
   "Calm", "Clever", "Cloudy", "Cobalt", "Cosmic", "Crimson", "Crystal", "Dark", "Dawn",
   "Deft", "Dire", "Dusk", "Dusty", "Elder", "Ember", "Endless", "Fallen", "Fierce", "Feral",
   "Frosty", "Gilded", "Grim", "Hollow", "Honored", "Icy", "Infernal", "Jagged", "Jade",
   "Keen", "Lofty", "Lost", "Lunar", "Lurking", "Marbled", "Misty", "Molten", "Mystic",
   "Noble", "Nether", "Obsidian", "Ominous", "Pale", "Phantom", "Primal", "Rapid", "Raging",
   "Runed", "Scarlet", "Shadowed", "Silent", "Silver", "Sly", "Solar", "Spectral", "Stern",
   "Stony", "Stormy", "Swift", "Toxic", "Twilight", "Unyielding", "Veiled", "Vengeful", "Void",
   "Wicked", "Wild", "Withered", "Wrathful"]

def nouns : List String :=
  ["Adder", "Anvil", "Archer", "Asp", "Axe", "Basilisk", "Bear", "Blade", "Blaze", "Boar",
   "Bolt", "Bulwark", "Claw", "Cobra", "Condor", "Crag", "Drake", "Drifter", "Duelist",
   "Eagle", "Ember", "Falcon", "Fang", "Forge", "Fox", "Gale", "Gargoyle", "Ghost", "Golem",
   "Guardian", "Hawk", "Helm", "Hound", "Hunter", "Hydra", "Iron", "Jackal", "Knight", "Lance",
   "Lynx", "Mantle", "Marauder", "Monk", "Ogre", "Oracle", "Panther", "Pike", "Ranger",
   "Raven", "Reaver", "Rogue", "Sage", "Sentry", "Serpent", "Shade", "Shield", "Skull",
   "Slayer", "Specter", "Spike", "Spirit", "Stalker", "Storm", "Striker", "Tempest", "Thorn",
   "Tiger", "Titan", "Toad", "Tracker", "Troll", "Viper", "Void", "Warden", "Warlock", "Wasp",
   "Wolf", "Wyrm"]

/-- A random adjective, noun and number from 10 to 999. -/
def generateUsername : Srv String := do
  let a ← randIntN adjectives.length (by decide)
  let n ← randIntN nouns.length (by decide)
  let num ← randIntN 990 (by decide)
  return adjectives.get a ++ nouns.get n ++ toString (num.val + 10)

/-- `[a-zA-Z0-9_]` -/
def usernameChar (c : Char) : Bool :=
  ('a' ≤ c && c ≤ 'z') || ('A' ≤ c && c ≤ 'Z') || ('0' ≤ c && c ≤ '9') || c = '_'

/-- `^[a-zA-Z0-9_]{3,30}$` -/
def usernameRE (s : String) : Bool :=
  3 ≤ s.length && s.length ≤ 30 && s.toList.all usernameChar

theorem usernameRE_length {s : String} (h : usernameRE s = true) :
    3 ≤ s.length ∧ s.length ≤ 30 := by
  simp only [usernameRE, Bool.and_eq_true, decide_eq_true_eq] at h
  exact h.1

/-! ## Generated handles -/

theorem adjectives_valid : ∀ a ∈ adjectives,
    1 ≤ a.length ∧ a.length ≤ 10 ∧ a.toList.all usernameChar = true := by
  decide +kernel

theorem nouns_valid : ∀ n ∈ nouns,
    1 ≤ n.length ∧ n.length ≤ 10 ∧ n.toList.all usernameChar = true := by
  decide +kernel

theorem usernameChar_of_isDigit {c : Char} (h : c.isDigit = true) : usernameChar c = true := by
  obtain ⟨h₀, h₉⟩ : '0' ≤ c ∧ c ≤ '9' := by simpa [Char.isDigit, Char.le_def] using h
  simp [usernameChar, h₀, h₉]

theorem number_valid {k : Nat} (hk : k < 1000) : 1 ≤ (toString k).length ∧
    (toString k).length ≤ 10 ∧ (toString k).toList.all usernameChar = true := by
  rw [Nat.toString_eq_ofList_toDigits, String.toList_ofList, String.length_ofList]
  refine ⟨Nat.length_toDigits_pos, ?_, ?_⟩
  · exact (Nat.length_toDigits_le_iff (by decide) (by decide)).mpr (by omega)
  · rw [List.all_eq_true]
    intro c hc
    exact usernameChar_of_isDigit (Nat.isDigit_of_mem_toDigits (by decide) (by decide) hc)

/-- **Every handle the generator can draw matches the pattern.** -/
theorem generateUsername_valid (a : Fin adjectives.length) (n : Fin nouns.length) (num : Fin 990) :
    usernameRE (adjectives.get a ++ nouns.get n ++ toString (num.val + 10)) = true := by
  obtain ⟨ha₁, ha₂, ha⟩ := adjectives_valid _ (List.get_mem adjectives a)
  obtain ⟨hn₁, hn₂, hn⟩ := nouns_valid _ (List.get_mem nouns n)
  obtain ⟨hk₁, hk₂, hk⟩ := number_valid (show num.val + 10 < 1000 by omega)
  simp only [usernameRE, String.length_append, String.toList_append, List.all_append, ha, hn, hk,
    Bool.and_true, Bool.and_eq_true, decide_eq_true_eq]
  omega

end SampleGrpc
