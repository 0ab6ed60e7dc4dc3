import TextRules.Text.LowerCase

namespace TextRules

/-!
# The manual

The pages that the program shows on request, and the names under which they are found.
-/

namespace Manual

/-- A page, line by line. -/
abbrev Page := List String

/-- The text of a page.  Every line is ended. -/
def Page.text (page : Page) : String := String.join (page.map fun line => line ++ "\n")

/-- The list of the pages, and a summary of the language. -/
def overview : Page := [
  "RULECHECK DOCUMENTATION",
  "",
  "A rule compares two expressions over the statistics of an input string:",
  "how often a piece of text occurs in it, and the sum or average of the",
  "numbers embedded in it.",
  "",
  "DOCUMENTATION CATEGORIES",
  "",
  "  rules             Rule shape, normalization and how operands are stored",
  "  functions         max, min, sumof2, avgof2",
  "  leaves            Numbers, count('text') and the input aggregates",
  "  operators         Relational operators",
  "  batch             Checking many inputs against stored rules",
  "",
  "QUICK REFERENCE",
  "",
  "  max(a, b)                     Larger argument",
  "  min(a, b)                     Smaller argument",
  "  sumof2(a, b)                  a + b",
  "  avgof2(a, b)                  (a + b) / 2, rounded down",
  "  count('aa')                   Occurrences of \"aa\", overlaps included",
  "  sumofallnumberfromstring      Sum of every number in the input",
  "  avgofallnumberfromstring      Average of those numbers, rounded down",
  "  <  <=  >  >=  =  !=           Comparisons",
  "",
  "Run 'rulecheck doc <category>' for detailed documentation."]

/-- How a rule is written and stored. -/
def rules : Page := [
  "RULES",
  "",
  "RULE SHAPE",
  "  <expression> <operator> <expression>",
  "",
  "  Examples:",
  "    max(count('a'), sumof2(3, 5)) >= avgofallnumberfromstring",
  "    count('error') = 0",
  "    sumof2(count('x'), count('y')) != 10",
  "",
  "NORMALIZATION",
  "  Rule text is case-insensitive. Whitespace and quote characters are",
  "  removed before anything else, so these are the same rule:",
  "",
  "    MAX( count(\"A\"), 3 ) > 1",
  "    max(count(a),3)>1",
  "",
  "  Note that the text inside count() is lower-cased as well.",
  "",
  "VALIDATION",
  "  A rule is rejected as \"not in format\" when:",
  "    - its parentheses are unbalanced",
  "    - it has no operator, or nothing after the operator",
  "",
  "  It is rejected as \"invalid\" when either side:",
  "    - contains an unknown word (e.g. sumof instead of sumof2)",
  "    - gives a function fewer or more than two arguments",
  "    - holds more than one expression",
  "",
  "STORED FORM",
  "  Each side is stored as a flat list in prefix order:",
  "",
  "    max(min(count('a'), sumof2(3, 5)), 7)",
  "    => [\"max\", \"min\", \"count-a\", \"sumof2\", \"3\", \"5\", \"7\"]",
  "",
  "  Run 'rulecheck parse <rule>' to see the stored form of a rule."]

/-- The functions of two values. -/
def functions : Page := [
  "FUNCTIONS",
  "",
  "Every function takes exactly two arguments. Arguments may be numbers,",
  "leaves or other function calls.",
  "",
  "max(a, b)",
  "  The larger argument.",
  "    max(1, 2)                   => 2",
  "",
  "min(a, b)",
  "  The smaller argument.",
  "    min(count('a'), 8)          => count('a') when it is below 8",
  "",
  "sumof2(a, b)",
  "  The sum of both arguments.",
  "    sumof2(1, 2)                => 3",
  "",
  "avgof2(a, b)",
  "  The average of both arguments, rounded down.",
  "    avgof2(230, 32)             => 131",
  "    avgof2(6, 3)                => 4"]

/-- The parts of an operand that have a value by themselves. -/
def leaves : Page := [
  "LEAVES",
  "",
  "NUMBERS",
  "  Non-negative whole numbers written in decimal.",
  "    0   3   175",
  "",
  "count('text')",
  "  How many times text occurs in the input string. Overlapping",
  "  occurrences all count.",
  "    count('aa') on \"aaaaa aa aaa\"   => 7",
  "",
  "sumofallnumberfromstring",
  "  Every maximal run of digits in the input is a number; this is their sum.",
  "    on \"abc 23eft fata4s2van\"       => 23 + 4 + 2 = 29",
  "",
  "avgofallnumberfromstring",
  "  The average of those numbers, rounded down.",
  "    on \"abc 23eft fata4s2van\"       => 29 / 3 = 9",
  "",
  "NO NUMBERS IN THE INPUT",
  "  With --empty-aggregates zero (the default) both aggregates are 0.",
  "  With --empty-aggregates reject, a rule that uses either of them fails."]

/-- The relations. -/
def operators : Page := [
  "OPERATORS",
  "",
  "  <     less than",
  "  <=    less than or equal",
  "  >     greater than",
  "  >=    greater than or equal",
  "  =     equal (a single =)",
  "  !=    not equal",
  "",
  "Only the first operator in the rule text splits the rule; a second",
  "operator makes the right-hand side invalid."]

/-- Checking many texts against stored rules. -/
def batch : Page := [
  "BATCH",
  "",
  "  rulecheck batch --rules rules.json --input '[\"a1b2\", \"no digits\"]'",
  "",
  "rules.json holds rules in their stored form:",
  "",
  "  [",
  "    \x7b\"operand1\": [\"count-a\"], \"operator\": \">\", \"operand2\": [\"0\"]\x7d,",
  "    \x7b\"operand1\": [\"sumofallnumberfromstring\"], \"operator\": \"=\", \"operand2\": [\"3\"]\x7d",
  "  ]",
  "",
  "The result has one row per input string and one entry per rule:",
  "",
  "  [[true, true], [false, false]]",
  "",
  "Without --input the JSON array of inputs is read from stdin."]

/-- The pages by the names that they go by. -/
def pages : List (List String × Page) := [
  (["rules", "rule", "syntax"], rules),
  (["functions", "function", "funcs"], functions),
  (["leaves", "leaf", "values"], leaves),
  (["operators", "ops"], operators),
  (["batch", "stored_rules"], batch)]

/-- A name in lower case, with underscores for hyphens. -/
def canonicalName (name : String) : String :=
  String.ofList ((lowerCase name.toList).map fun c => if c = '-' then '_' else c)

/-- The page with a given name. -/
def find? (name : String) : Option Page :=
  (pages.find? fun (names, _) => names.contains (canonicalName name)).map Prod.snd

end Manual

end TextRules
