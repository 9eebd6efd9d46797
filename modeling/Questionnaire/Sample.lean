import Questionnaire.Source.Compile
/-!
Samples: four questionnaires that come with the program. The first three ask about a survey tool
with growing use of variables, conditions and computed values; the last one has navigation, a
breakdown and lists in its texts. Each has a name and compiles without problems.
-/
namespace Questionnaire

open Text

/-- The samples. -/
inductive Sample where
  | basic
  | intermediate
  | advanced
  | budget
deriving DecidableEq, Repr

namespace Sample

/-- A survey without variables. -/
def basicLines : List String := [
  "# **Survey Tool Evaluation**",
  "",
  "## About This Survey",
  "Help us improve our survey creation tool by sharing your experience using it.",
  "",
  "Q: How long have you been using this survey tool?",
  "- Just started today",
  "- A few days",
  "- About a week",
  "- Several weeks or more",
  "",
  "Q: How many surveys have you created so far?",
  "NUMBER",
  "",
  "#",
  "",
  "Q: Which types of questions do you use in your surveys?",
  "HINT: Select all that apply",
  "- Multiple choice questions",
  "- Checkbox questions",
  "- Text/essay questions",
  "- Number questions",
  "- Matrix questions",
  "CHECKBOX"]

/-- A survey with variables, a condition and a placeholder. -/
def intermediateLines : List String := [
  "# **Survey Tool Evaluation**",
  "",
  "## About This Survey",
  "Help us improve our survey creation tool by sharing your experience using it.",
  "",
  "Q: How long have you been using this survey tool?",
  "- Just started today",
  "- A few days",
  "- About a week",
  "- Several weeks or more",
  "VARIABLE: usage_time",
  "",
  "Q: How many surveys have you created so far?",
  "NUMBER",
  "VARIABLE: surveys_created",
  "",
  "#",
  "",
  "Q: Which features have you tried so far?",
  "HINT: Select all that apply",
  "- Creating basic surveys",
  "- Using conditional logic (SHOW_IF)",
  "- Adding computed variables",
  "- Other advanced features",
  "  - TEXT",
  "CHECKBOX",
  "VARIABLE: features_tried",
  "",
  "Q: How would you rate each aspect of the survey tool?",
  "- Q: Ease of use",
  "- Q: Documentation quality",
  "- Q: Feature completeness",
  "- Excellent",
  "- Good",
  "- Fair",
  "- Poor",
  "",
  "#",
  "SHOW_IF: features_tried IS Using conditional logic (SHOW_IF)",
  "",
  "Since you've tried conditional logic, we'd love your specific feedback.",
  "",
  "Q: You've created \x7bsurveys_created\x7d surveys so far. What would help you most?",
  "- Better documentation",
  "- More examples",
  "- Video tutorials",
  "- Simplified syntax"]

/-- A survey with blocks, a computed value and conditional texts. -/
def advancedLines : List String := [
  "BLOCK: User Background",
  "",
  "# **Survey Tool Evaluation**",
  "",
  "## About This Survey",
  "Help us improve our survey creation tool by sharing your experience using it.",
  "",
  "Q: How long have you been using this survey tool?",
  "- Just started today",
  "- A few days",
  "- About a week",
  "- Several weeks or more",
  "VARIABLE: usage_time",
  "",
  "Q: How many surveys have you created so far?",
  "NUMBER",
  "VARIABLE: surveys_created",
  "",
  "#",
  "",
  "Q: Which features have you tried so far?",
  "HINT: Select all that apply",
  "- Creating basic surveys",
  "- Using conditional logic (SHOW_IF)",
  "- Adding computed variables",
  "- Variable interpolation in text",
  "CHECKBOX",
  "VARIABLE: features_tried",
  "",
  "COMPUTE: experienced_user = usage_time IS Several weeks or more AND surveys_created >= 3",
  "",
  "BLOCK: Feature Feedback",
  "SHOW_IF: features_tried",
  "",
  "#",
  "",
  "We'd like detailed feedback on the features you've used.",
  "",
  "Q: \x7b\x7bIF experienced_user THEN As an experienced user ELSE As someone still " ++
    "learning\x7d\x7d, what would help you most?",
  "- Better documentation",
  "- More examples",
  "- Video tutorials",
  "- Simplified syntax",
  "",
  "BLOCK: Overall Assessment",
  "SHOW_IF: experienced_user",
  "",
  "# **Advanced User Feedback**",
  "",
  "Q: Would you recommend this tool to others?",
  "- Yes",
  "- No",
  "VARIABLE: recommend",
  "",
  "Q: You've created \x7bsurveys_created\x7d surveys so far. \x7b\x7bIF recommend IS Yes " ++
    "THEN Thank you for recommending us! ELSE We hope we can improve your experience.\x7d\x7d " ++
    "What should we improve first?",
  "ESSAY",
  "",
  "BLOCK: Final Page",
  "",
  "# **Thank You**",
  "",
  "Thank you for taking the time to complete our survey!",
  "",
  "\x7b\x7bIF recommend IS Yes THEN We appreciate your willingness to recommend the tool. " ++
    "ELSE Your suggestions will be used to improve the tool.\x7d\x7d"]

/-- A survey with navigation, a breakdown and formulas in its texts. -/
def budgetLines : List String := [
  "BLOCK: Household",
  "",
  "# **About You**",
  "NAVIGATION: 1",
  "",
  "Q: Which of these do you spend money on each month?",
  "- Sports",
  "- Music",
  "- Technology",
  "CHECKBOX",
  "VARIABLE: interests",
  "",
  "# **Monthly Costs**",
  "NAVIGATION: 2",
  "TOOLTIP: \"\"\"",
  "Use your most recent month.",
  "",
  "Round to whole euros.",
  "\"\"\"",
  "",
  "Q: What are your monthly costs?",
  "BREAKDOWN",
  "PREFIX: €",
  "- HEADER: Housing",
  "- Rent",
  "  - VARIABLE: rent",
  "- Insurance",
  "  - VARIABLE: insurance",
  "- SUBTOTAL: Housing subtotal",
  "- SEPARATOR",
  "- Food",
  "  - VARIABLE: food",
  "- Transport",
  "  - VARIABLE: transport",
  "- Discounts received",
  "  - SUBTRACT",
  "  - VARIABLE: discounts",
  "TOTAL: Total monthly costs",
  "",
  "BLOCK: Summary",
  "COMPUTE: total = rent + insurance + food + transport - discounts",
  "COMPUTE: big_spender = total > 2000",
  "",
  "# **Budget Summary**",
  "NAVIGATION: 1",
  "",
  "You spend on \x7binterests AS INLINE_LIST\x7d.",
  "",
  "Your monthly costs come to €\x7btotal\x7d, of which €\x7brent + insurance\x7d goes to housing.",
  "",
  "\x7b\x7bIF big_spender THEN That is above the national average. ELSE That is below the " ++
    "national average.\x7d\x7d",
  "",
  "Q: Would you like tips on saving money?",
  "- Yes",
  "- No",
  "SHOW_IF: total > 0"]

/-- All samples. -/
def all : List Sample := [.basic, .intermediate, .advanced, .budget]

/-- The word by which a sample is asked for. -/
def word : Sample → Text
  | .basic => "basic".toList
  | .intermediate => "intermediate".toList
  | .advanced => "advanced".toList
  | .budget => "budget".toList

/-- The name of the survey. -/
def title : Sample → Text
  | .basic => "Basic Sample".toList
  | .intermediate => "Intermediate Sample".toList
  | .advanced => "Advanced Sample".toList
  | .budget => "Budget Sample".toList

/-- The source of a sample. -/
def source (sample : Sample) : Text :=
  join ['\n'] <| List.map String.toList <|
    match sample with
    | .basic => basicLines
    | .intermediate => intermediateLines
    | .advanced => advancedLines
    | .budget => budgetLines

/-- The sample of a word. -/
def ofWord? (t : Text) : Option Sample := all.find? fun sample => sample.word = t

/-- The survey of a sample, with its problems looked at. -/
def compile (sample : Sample) : Source.Compilation := Source.compile sample.source sample.title true

/-- The message for a word that names no sample. -/
def unknownMessage (t : Text) : Text :=
  "Unknown sample '".toList ++ t ++ "'. Choose from: ".toList ++ join [',', ' '] (all.map word)

end Sample
end Questionnaire
