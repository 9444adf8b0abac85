import WalletKit.Text.Blank

set_option autoImplicit false

namespace WalletKit.Account

def dropEmptyEnd (words : List (List Char)) : List (List Char) :=
  (words.reverse.dropWhile List.isEmpty).reverse

/-- The words of a phrase; a phrase without blanks is one word, be it empty. -/
def wordsOfPhrase (phrase : String) : List String :=
  let cs := phrase.toList
  if ' ' ∈ cs then (dropEmptyEnd (cs.splitOn ' ')).map String.ofList else [phrase]

/-- The words with blanks between them, without white space at the two ends. -/
def phraseOfWords (words : List String) : String :=
  String.ofList (Blank.trim ([' '].intercalate (words.map String.toList)))

end WalletKit.Account
