import DiceBot.Bot.Basic
import DiceBot.Bot.Session
import DiceBot.Chat.Delivery
import DiceBot.Chat.Message
import DiceBot.Chat.Player
import DiceBot.Chat.Recognition
import DiceBot.Chat.Request
import DiceBot.Console.Arguments
import DiceBot.Console.Input
import DiceBot.Console.Log
import DiceBot.Console.Program
import DiceBot.Dice.Arith
import DiceBot.Dice.Budget
import DiceBot.Dice.Defaults
import DiceBot.Dice.Evaluation
import DiceBot.Dice.Expression
import DiceBot.Dice.Library
import DiceBot.Dice.Roll
import DiceBot.Dice.Roller
import DiceBot.Dice.Seed
import DiceBot.Dice.Term
import DiceBot.Dice.Token
import DiceBot.Dice.Total
import DiceBot.Main
import DiceBot.Number.Binary64
import DiceBot.Number.Decimal
import DiceBot.Roll.Error
import DiceBot.Roll.Evaluator
import DiceBot.Roll.Limits
import DiceBot.Roll.Plan
import DiceBot.Roll.Reply
import DiceBot.Settings.Basic
import DiceBot.Settings.Document
import DiceBot.Settings.Files
import DiceBot.Settings.Load
import DiceBot.Text.Basic
import DiceBot.Text.Blank
import DiceBot.Text.Case.Classes
import DiceBot.Text.Case.Lower
import DiceBot.Text.Case.Runs
import DiceBot.Text.CodePoints
import DiceBot.Text.DecimalDigit
import DiceBot.Text.Encoding
import DiceBot.Text.Letter
import DiceBot.Text.Markup
import DiceBot.Toml.Document
import DiceBot.Toml.Lexical
import DiceBot.Toml.Scalar
import DiceBot.Toml.Value
import DiceBot.Proofs.Bot.Preparation
import DiceBot.Proofs.Chat.HiddenRequest
import DiceBot.Proofs.Bot.Confidentiality
import DiceBot.Proofs.Bot.Accounting
import DiceBot.Proofs.Dice.Laws
import DiceBot.Proofs.Dice.Reading
import DiceBot.Proofs.Text.LowerCase
import DiceBot.Proofs.Dice.Budget
import DiceBot.Proofs.Dice.CapitalLetters
import DiceBot.Proofs.Dice.Limit
import DiceBot.Proofs.Dice.Writing
import DiceBot.Proofs.Dice.Lawful
import DiceBot.Proofs.Dice.Expansion
import DiceBot.Proofs.Dice.Gaps
import DiceBot.Proofs.Dice.Occurrences
import DiceBot.Proofs.Chat.Rules
import DiceBot.Proofs.Number.Value
import DiceBot.Proofs.Roll.Splitting
import DiceBot.Proofs.Roll.Echo
import DiceBot.Proofs.Chat.MarkedForm
import DiceBot.Proofs.Chat.Addressing
import DiceBot.Proofs.Bot.Stateless
import DiceBot.Proofs.Text.Encoding
import DiceBot.Proofs.Console.Input
import DiceBot.Proofs.Console.Chat
import DiceBot.Proofs.Console.RollArguments
import DiceBot.Proofs.Text.Digits
import DiceBot.Proofs.Text.Unescaping
import DiceBot.Proofs.Number.Nearest
import DiceBot.Proofs.Number.Rounding
import DiceBot.Proofs.Number.Numeral
import DiceBot.Proofs.Number.Pattern
import DiceBot.Proofs.Roll.RepeatCount
import DiceBot.Proofs.Roll.NumeralCount
import DiceBot.Proofs.Dice.Positions
import DiceBot.Proofs.Dice.PlainDice
import DiceBot.Proofs.Roll.Repetition
import DiceBot.Proofs.Console.Flags
import DiceBot.Proofs.Chat.Layout
import DiceBot.Proofs.Roll.LetterCase
import DiceBot.Proofs.Bot.LetterCase
import DiceBot.Proofs.Settings.Defaults
import DiceBot.Proofs.Settings.Validation
import DiceBot.Proofs.Bot.DefaultRoll
import DiceBot.Proofs.Chat.RepeatMarker
import DiceBot.Proofs.Console.StartUp
import DiceBot.Proofs.Bot.ReplyLength
