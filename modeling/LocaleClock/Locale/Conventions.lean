/-! What a locale says about dates: its names for months and days, its decimal point and its own
patterns. -/

namespace LocaleClock.Locale

/-- The conventions of a locale. A blank pattern says that the locale has none of that kind.
Weekdays start with Sunday. -/
structure Conventions where
  decimalPoint : String
  /-- The pattern of a date with a time. -/
  dateTime : String
  /-- The pattern of a date. -/
  date : String
  /-- The pattern of a time of day. -/
  time : String
  /-- The pattern of a time on a dial of twelve hours. -/
  dialTime : String
  morning : String
  afternoon : String
  shortWeekdays : List String
  weekdays : List String
  shortMonths : List String
  months : List String
  deriving Repr

namespace Conventions

/-- The conventions of no language in particular. -/
def neutral : Conventions where
  decimalPoint := "."
  dateTime := "%a %b %e %H:%M:%S %Y"
  date := "%m/%d/%y"
  time := "%H:%M:%S"
  dialTime := "%I:%M:%S %p"
  morning := "AM"
  afternoon := "PM"
  shortWeekdays := ["Sun", "Mon", "Tue", "Wed", "Thu", "Fri", "Sat"]
  weekdays := ["Sunday", "Monday", "Tuesday", "Wednesday", "Thursday", "Friday", "Saturday"]
  shortMonths := ["Jan", "Feb", "Mar", "Apr", "May", "Jun", "Jul", "Aug", "Sep", "Oct", "Nov",
                  "Dec"]
  months := ["January", "February", "March", "April", "May", "June", "July", "August", "September",
             "October", "November", "December"]

end Conventions

end LocaleClock.Locale
