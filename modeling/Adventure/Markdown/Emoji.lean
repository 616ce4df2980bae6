import Adventure.Markdown.Event

/-!
# Emoji

A known name between colons stands for an emoji, in every text outside code blocks. Names are looked
for from left to right; the colon that ends a name, known or not, does not start another one. Which
names are known is for the user of the library to say; a short table is used where nothing is said.
-/

namespace Adventure.Markdown

/-- The emoji of the names that stand for one. -/
abbrev Emojis := List Char → Option (List Char)

/-- A few of the names in general use. -/
def emojiTable : List (String × String) := [
  ("+1", "👍"), ("-1", "👎"), ("100", "💯"), ("1234", "🔢"), ("a", "🅰️"), ("b", "🅱️"),
  ("candle", "🕯️"), ("cat", "🐱"), ("coffee", "☕"), ("copyright", "©️"), ("crown", "👑"),
  ("dagger", "🗡️"), ("door", "🚪"), ("dragon", "🐉"), ("e-mail", "📧"), ("exclamation", "❗"),
  ("eyes", "👀"), ("fire", "🔥"), ("fr", "🇫🇷"), ("gb", "🇬🇧"), ("gem", "💎"), ("ghost", "👻"),
  ("heart", "❤️"), ("hourglass", "⌛"), ("key", "🔑"), ("lock", "🔒"), ("man_astronaut", "👨‍🚀"),
  ("moneybag", "💰"), ("non-potable_water", "🚱"), ("one", "1️⃣"), ("question", "❓"),
  ("rocket", "🚀"), ("skull", "💀"), ("smile", "😄"), ("star", "⭐"), ("tada", "🎉"),
  ("thumbsup", "👍"), ("unlock", "🔓"), ("us", "🇺🇸"), ("warning", "⚠️"), ("wave", "👋"),
  ("wind_face", "🌬️")]

/-- The emoji of the names in the table. -/
def knownEmojis : Emojis := fun name =>
  (emojiTable.lookup (String.ofList name)).map String.toList

def isNameChar (c : Char) : Bool :=
  ('a' ≤ c && c ≤ 'z') || c.isDigit || c == '_' || c == '+' || c == '-'

/-- The name at the start of a text and what follows its closing colon. -/
def takeName (cs : List Char) : Option (List Char × List Char) :=
  match cs.dropWhile isNameChar with
  | ':' :: rest =>
    let name := cs.takeWhile isNameChar
    if name.isEmpty then none else some (name, rest)
  | _ => none

/-- What follows a name is shorter than the text, since the closing colon is used up. -/
theorem takeName_length {cs name rest : List Char} (h : takeName cs = some (name, rest)) :
    rest.length < cs.length := by
  have hle := (List.dropWhile_suffix isNameChar : cs.dropWhile isNameChar <:+ cs).length_le
  simp only [takeName] at h
  split at h
  · next r heq =>
    rw [heq, List.length_cons] at hle
    split at h
    · simp at h
    · simp only [Option.some.injEq, Prod.mk.injEq] at h
      rw [← h.2]
      omega
  · simp at h

/-- A text in which the names of emoji between colons are replaced. -/
def replaceShortcodes (emojis : Emojis) : List Char → List Char
  | []        => []
  | ':' :: cs =>
    match _ : takeName cs with
    | some (name, rest) =>
      (emojis name).getD (':' :: name ++ [':']) ++ replaceShortcodes emojis rest
    | none              => ':' :: replaceShortcodes emojis cs
  | c :: cs   => c :: replaceShortcodes emojis cs
termination_by cs => cs.length
decreasing_by
  · have := takeName_length ‹_›
    simp only [List.length_cons]
    omega
  · simp
  · simp

/-- Replaces the names in the texts of a sequence of events; `inCode` holds inside a code block. -/
def replaceEmoji (emojis : Emojis) (inCode : Bool) : List Event → List Event
  | [] => []
  | .start (.codeBlock info) :: es => .start (.codeBlock info) :: replaceEmoji emojis true es
  | .stop (.codeBlock info) :: es  => .stop (.codeBlock info) :: replaceEmoji emojis false es
  | .text cs :: es =>
    .text (if inCode then cs else replaceShortcodes emojis cs) :: replaceEmoji emojis inCode es
  | e :: es => e :: replaceEmoji emojis inCode es

end Adventure.Markdown
