import LocaleClock.Locale.Basic
import LocaleClock.Locale.Conventions

/-! A sample table, to run the program and to give examples with: the conventions of forty-nine of
the known locales. What is proved about showing dates is proved for any table. Own patterns are
nested in three of the rows: the time of day is the pattern for a dial of twelve hours in American
English and in Greek, and a date with a time has both the date and that pattern in Korean. Spaces
inside the texts are part of them. -/

namespace LocaleClock.Locale

namespace Conventions

def aaERSaaho : Conventions where
  decimalPoint := "."
  dateTime := "%A, %B %e, %Y %l:%M:%S %p %Z"
  date := "%d/%m/%Y"
  time := "%l:%M:%S %p"
  dialTime := "%l:%M:%S %p"
  morning := "saaku"
  afternoon := "carra"
  shortWeekdays := ["Nab", "San", "Sal", "Rab", "Cam", "Jum", "Qun"]
  weekdays := ["Naba Sambat", "Sani", "Salus", "Rabuq", "Camus", "Jumqata", "Qunxa Sambat"]
  shortMonths := ["Qun", "Nah", "Cig", "Agd", "Cax", "Qas", "Qad", "Leq", "Way", "Dit", "Xim",
                  "Kax"]
  months := ["Qunxa Garablu", "Naharsi Kudo", "Ciggilta Kudo", "Agda Baxis", "Caxah Alsa",
             "Qasa Dirri", "Qado Dirri", "Liiqen", "Waysu", "Diteli", "Ximoli", "Kaxxa Garablu"]

def arSA : Conventions where
  decimalPoint := "."
  dateTime := "%A %e %B %Y  %k:%M:%S"
  date := "%A %e %B %Y"
  time := "%k:%M:%S"
  dialTime := "%k:%M:%S"
  morning := ""
  afternoon := ""
  shortWeekdays := ["ح", "ن", "ث", "ر", "خ", "ج", "س"]
  weekdays := ["الأحد", "الإثنين", "الثلاثاء", "الأربعاء", "الخميس", "الجمعـة", "السبت"]
  shortMonths := ["يناير", "فبراير", "مارس", "أبريل", "مايو", "يونيو", "يوليو", "أغسطس", "سبتمبر",
                  "أكتوبر", "نوفمبر", "ديسمبر"]
  months := ["يناير", "فبراير", "مارس", "أبريل", "مايو", "يونيو", "يوليو", "أغسطس", "سبتمبر",
             "أكتوبر", "نوفمبر", "ديسمبر"]

def azIR : Conventions where
  decimalPoint := "."
  dateTime := "‫%A %Oe %B %Oy، %OH:%OM:%OS‬"
  date := "%Oy/%Om/%Od"
  time := "%OH:%OM:%OS"
  dialTime := ""
  morning := ""
  afternoon := ""
  shortWeekdays := ["یکشنبه", "دوشنبه", "سه‌شنبه", "چارشنبه", "جۆمعه آخشامی", "جۆمعه", "شنبه"]
  weekdays := ["یکشنبه", "دوشنبه", "سه‌شنبه", "چارشنبه", "جۆمعه آخشامی", "جۆمعه", "شنبه"]
  shortMonths := ["ژانویه", "فوریه", "مارس", "آوریل", "مئی", "ژوئن", "جولای", "آقۇست", "سپتامبر",
                  "اوْکتوْبر", "نوْوامبر", "دسامبر"]
  months := ["ژانویه", "فوریه", "مارس", "آوریل", "مئی", "ژوئن", "جولای", "آقۇست", "سپتامبر",
             "اوْکتوْبر", "نوْوامبر", "دسامبر"]

def bgBG : Conventions where
  decimalPoint := ","
  dateTime := "%e.%m.%Y (%a) %k:%M:%S %Z"
  date := "%e.%m.%Y"
  time := "%k:%M:%S"
  dialTime := ""
  morning := ""
  afternoon := ""
  shortWeekdays := ["нд", "пн", "вт", "ср", "чт", "пт", "сб"]
  weekdays := ["неделя", "понеделник", "вторник", "сряда", "четвъртък", "петък", "събота"]
  shortMonths := ["яну", "фев", "мар", "апр", "май", "юни", "юли", "авг", "сеп", "окт", "ное",
                  "дек"]
  months := ["януари", "февруари", "март", "април", "май", "юни", "юли", "август", "септември",
             "октомври", "ноември", "декември"]

def caES : Conventions where
  decimalPoint := ","
  dateTime := "%A, %-d %B de %Y, %T %Z"
  date := "%-d/%-m/%y"
  time := "%T"
  dialTime := "%l:%M:%S %p"
  morning := "a. m."
  afternoon := "p. m."
  shortWeekdays := ["dg.", "dl.", "dt.", "dc.", "dj.", "dv.", "ds."]
  weekdays := ["diumenge", "dilluns", "dimarts", "dimecres", "dijous", "divendres", "dissabte"]
  shortMonths := ["de gen.", "de febr.", "de març", "d’abr.", "de maig", "de juny", "de jul.",
                  "d’ag.", "de set.", "d’oct.", "de nov.", "de des."]
  months := ["de gener", "de febrer", "de març", "d’abril", "de maig", "de juny", "de juliol",
             "d’agost", "de setembre", "d’octubre", "de novembre", "de desembre"]

def csCZ : Conventions where
  decimalPoint := ","
  dateTime := "%a %-d. %B %Y, %H:%M:%S %Z"
  date := "%-d.%-m.%Y"
  time := "%H:%M:%S"
  dialTime := ""
  morning := ""
  afternoon := ""
  shortWeekdays := ["Ne", "Po", "Út", "St", "Čt", "Pá", "So"]
  weekdays := ["Neděle", "Pondělí", "Úterý", "Středa", "Čtvrtek", "Pátek", "Sobota"]
  shortMonths := ["led", "úno", "bře", "dub", "kvě", "čen", "čec", "srp", "zář", "říj", "lis",
                  "pro"]
  months := ["ledna", "února", "března", "dubna", "května", "června", "července", "srpna", "září",
             "října", "listopadu", "prosince"]

def daDK : Conventions where
  decimalPoint := ","
  dateTime := "%a %d %b %Y %T %Z"
  date := "%d-%m-%Y"
  time := "%T"
  dialTime := ""
  morning := ""
  afternoon := ""
  shortWeekdays := ["søn", "man", "tir", "ons", "tor", "fre", "lør"]
  weekdays := ["søndag", "mandag", "tirsdag", "onsdag", "torsdag", "fredag", "lørdag"]
  shortMonths := ["jan", "feb", "mar", "apr", "maj", "jun", "jul", "aug", "sep", "okt", "nov",
                  "dec"]
  months := ["januar", "februar", "marts", "april", "maj", "juni", "juli", "august", "september",
             "oktober", "november", "december"]

def deAT : Conventions where
  decimalPoint := ","
  dateTime := "%a %d %b %Y %T %Z"
  date := "%Y-%m-%d"
  time := "%T"
  dialTime := ""
  morning := ""
  afternoon := ""
  shortWeekdays := ["So", "Mo", "Di", "Mi", "Do", "Fr", "Sa"]
  weekdays := ["Sonntag", "Montag", "Dienstag", "Mittwoch", "Donnerstag", "Freitag", "Samstag"]
  shortMonths := ["Jän", "Feb", "Mär", "Apr", "Mai", "Jun", "Jul", "Aug", "Sep", "Okt", "Nov",
                  "Dez"]
  months := ["Jänner", "Februar", "März", "April", "Mai", "Juni", "Juli", "August", "September",
             "Oktober", "November", "Dezember"]

def deCH : Conventions where
  decimalPoint := "."
  dateTime := "%a %d %b %Y %T %Z"
  date := "%d.%m.%Y"
  time := "%T"
  dialTime := ""
  morning := ""
  afternoon := ""
  shortWeekdays := ["So", "Mo", "Di", "Mi", "Do", "Fr", "Sa"]
  weekdays := ["Sonntag", "Montag", "Dienstag", "Mittwoch", "Donnerstag", "Freitag", "Samstag"]
  shortMonths := ["Jan", "Feb", "Mär", "Apr", "Mai", "Jun", "Jul", "Aug", "Sep", "Okt", "Nov",
                  "Dez"]
  months := ["Januar", "Februar", "März", "April", "Mai", "Juni", "Juli", "August", "September",
             "Oktober", "November", "Dezember"]

def deDE : Conventions where
  decimalPoint := ","
  dateTime := "%a %d %b %Y %T %Z"
  date := "%d.%m.%Y"
  time := "%T"
  dialTime := ""
  morning := ""
  afternoon := ""
  shortWeekdays := ["So", "Mo", "Di", "Mi", "Do", "Fr", "Sa"]
  weekdays := ["Sonntag", "Montag", "Dienstag", "Mittwoch", "Donnerstag", "Freitag", "Samstag"]
  shortMonths := ["Jan", "Feb", "Mär", "Apr", "Mai", "Jun", "Jul", "Aug", "Sep", "Okt", "Nov",
                  "Dez"]
  months := ["Januar", "Februar", "März", "April", "Mai", "Juni", "Juli", "August", "September",
             "Oktober", "November", "Dezember"]

def elGR : Conventions where
  decimalPoint := ","
  dateTime := "%a %d %b %Y %r %Z"
  date := "%d/%m/%Y"
  time := "%r"
  dialTime := "%I:%M:%S %p"
  morning := "πμ"
  afternoon := "μμ"
  shortWeekdays := ["Κυρ", "Δευ", "Τρι", "Τετ", "Πεμ", "Παρ", "Σαβ"]
  weekdays := ["Κυριακή", "Δευτέρα", "Τρίτη", "Τετάρτη", "Πέμπτη", "Παρασκευή", "Σάββατο"]
  shortMonths := ["Ιαν", "Φεβ", "Μαρ", "Απρ", "Μαΐ", "Ιουν", "Ιουλ", "Αυγ", "Σεπ", "Οκτ", "Νοε",
                  "Δεκ"]
  months := ["Ιανουαρίου", "Φεβρουαρίου", "Μαρτίου", "Απριλίου", "Μαΐου", "Ιουνίου", "Ιουλίου",
             "Αυγούστου", "Σεπτεμβρίου", "Οκτωβρίου", "Νοεμβρίου", "Δεκεμβρίου"]

def enAU : Conventions where
  decimalPoint := "."
  dateTime := "%a %d %b %Y %T %Z"
  date := "%d/%m/%y"
  time := "%T"
  dialTime := "%I:%M:%S %p"
  morning := "AM"
  afternoon := "PM"
  shortWeekdays := ["Sun", "Mon", "Tue", "Wed", "Thu", "Fri", "Sat"]
  weekdays := ["Sunday", "Monday", "Tuesday", "Wednesday", "Thursday", "Friday", "Saturday"]
  shortMonths := ["Jan", "Feb", "Mar", "Apr", "May", "Jun", "Jul", "Aug", "Sep", "Oct", "Nov",
                  "Dec"]
  months := ["January", "February", "March", "April", "May", "June", "July", "August",
             "September", "October", "November", "December"]

def enGB : Conventions where
  decimalPoint := "."
  dateTime := "%a %d %b %Y %T %Z"
  date := "%d/%m/%y"
  time := "%T"
  dialTime := "%l:%M:%S %P %Z"
  morning := "am"
  afternoon := "pm"
  shortWeekdays := ["Sun", "Mon", "Tue", "Wed", "Thu", "Fri", "Sat"]
  weekdays := ["Sunday", "Monday", "Tuesday", "Wednesday", "Thursday", "Friday", "Saturday"]
  shortMonths := ["Jan", "Feb", "Mar", "Apr", "May", "Jun", "Jul", "Aug", "Sep", "Oct", "Nov",
                  "Dec"]
  months := ["January", "February", "March", "April", "May", "June", "July", "August",
             "September", "October", "November", "December"]

def enUS : Conventions where
  decimalPoint := "."
  dateTime := "%a %d %b %Y %r %Z"
  date := "%m/%d/%Y"
  time := "%r"
  dialTime := "%I:%M:%S %p"
  morning := "AM"
  afternoon := "PM"
  shortWeekdays := ["Sun", "Mon", "Tue", "Wed", "Thu", "Fri", "Sat"]
  weekdays := ["Sunday", "Monday", "Tuesday", "Wednesday", "Thursday", "Friday", "Saturday"]
  shortMonths := ["Jan", "Feb", "Mar", "Apr", "May", "Jun", "Jul", "Aug", "Sep", "Oct", "Nov",
                  "Dec"]
  months := ["January", "February", "March", "April", "May", "June", "July", "August",
             "September", "October", "November", "December"]

def eo : Conventions where
  decimalPoint := ","
  dateTime := "%a %d %b %Y %T %z"
  date := "%Y-%m-%d"
  time := "%T"
  dialTime := ""
  morning := ""
  afternoon := ""
  shortWeekdays := ["dim", "lun", "mar", "mer", "ĵaŭ", "ven", "sab"]
  weekdays := ["dimanĉo", "lundo", "mardo", "merkredo", "ĵaŭdo", "vendredo", "sabato"]
  shortMonths := ["Jan", "Feb", "Mar", "Apr", "Maj", "Jun", "Jul", "Aŭg", "Sep", "Okt", "Nov",
                  "Dec"]
  months := ["Januaro", "Februaro", "Marto", "Aprilo", "Majo", "Junio", "Julio", "Aŭgusto",
             "Septembro", "Oktobro", "Novembro", "Decembro"]

def esES : Conventions where
  decimalPoint := ","
  dateTime := "%a %d %b %Y %T %Z"
  date := "%d/%m/%y"
  time := "%T"
  dialTime := ""
  morning := ""
  afternoon := ""
  shortWeekdays := ["dom", "lun", "mar", "mié", "jue", "vie", "sáb"]
  weekdays := ["domingo", "lunes", "martes", "miércoles", "jueves", "viernes", "sábado"]
  shortMonths := ["ene", "feb", "mar", "abr", "may", "jun", "jul", "ago", "sep", "oct", "nov",
                  "dic"]
  months := ["enero", "febrero", "marzo", "abril", "mayo", "junio", "julio", "agosto",
             "septiembre", "octubre", "noviembre", "diciembre"]

def esMX : Conventions where
  decimalPoint := "."
  dateTime := "%a %d %b %Y %T %Z"
  date := "%d/%m/%y"
  time := "%T"
  dialTime := ""
  morning := ""
  afternoon := ""
  shortWeekdays := ["dom", "lun", "mar", "mié", "jue", "vie", "sáb"]
  weekdays := ["domingo", "lunes", "martes", "miércoles", "jueves", "viernes", "sábado"]
  shortMonths := ["ene", "feb", "mar", "abr", "may", "jun", "jul", "ago", "sep", "oct", "nov",
                  "dic"]
  months := ["enero", "febrero", "marzo", "abril", "mayo", "junio", "julio", "agosto",
             "septiembre", "octubre", "noviembre", "diciembre"]

def etEE : Conventions where
  decimalPoint := ","
  dateTime := "%a %d %b %Y %T %Z"
  date := "%d.%m.%Y"
  time := "%T"
  dialTime := ""
  morning := ""
  afternoon := ""
  shortWeekdays := ["P", "E", "T", "K", "N", "R", "L"]
  weekdays := ["pühapäev", "esmaspäev", "teisipäev", "kolmapäev", "neljapäev", "reede", "laupäev"]
  shortMonths := ["jaan ", "veebr", "märts", "apr  ", "mai  ", "juuni", "juuli", "aug  ", "sept ",
                  "okt  ", "nov  ", "dets "]
  months := ["jaanuar", "veebruar", "märts", "aprill", "mai", "juuni", "juuli", "august",
             "september", "oktoober", "november", "detsember"]

def euES : Conventions where
  decimalPoint := ","
  dateTime := "%y-%m-%d %T %Z"
  date := "%a, %Y.eko %bren %da"
  time := "%T"
  dialTime := ""
  morning := ""
  afternoon := ""
  shortWeekdays := ["ig.", "al.", "ar.", "az.", "og.", "or.", "lr."]
  weekdays := ["igandea", "astelehena", "asteartea", "asteazkena", "osteguna", "ostirala",
               "larunbata"]
  shortMonths := ["urt", "ots", "mar", "api", "mai", "eka", "uzt", "abu", "ira", "urr", "aza",
                  "abe"]
  months := ["urtarrila", "otsaila", "martxoa", "apirila", "maiatza", "ekaina", "uztaila",
             "abuztua", "iraila", "urria", "azaroa", "abendua"]

def faIR : Conventions where
  decimalPoint := "."
  dateTime := "‫%A %Oe %B %Oy، %OH:%OM:%OS‬"
  date := "%Oy/%Om/%Od"
  time := "%OH:%OM:%OS"
  dialTime := ""
  morning := ""
  afternoon := ""
  shortWeekdays := ["یکشنبه", "دوشنبه", "سه‌شنبه", "چهارشنبه", "پنجشنبه", "جمعه", "شنبه"]
  weekdays := ["یکشنبه", "دوشنبه", "سه‌شنبه", "چهارشنبه", "پنجشنبه", "جمعه", "شنبه"]
  shortMonths := ["ژانویه", "فوریه", "مارس", "آوریل", "مه", "ژوئن", "ژوئیه", "اوت", "سپتامبر",
                  "اكتبر", "نوامبر", "دسامبر"]
  months := ["ژانویه", "فوریه", "مارس", "آوریل", "مه", "ژوئن", "ژوئیه", "اوت", "سپتامبر", "اكتبر",
             "نوامبر", "دسامبر"]

def fiFI : Conventions where
  decimalPoint := ","
  dateTime := "%a %e. %Bta %Y %H.%M.%S"
  date := "%d.%m.%Y"
  time := "%H.%M.%S"
  dialTime := ""
  morning := ""
  afternoon := ""
  shortWeekdays := ["su", "ma", "ti", "ke", "to", "pe", "la"]
  weekdays := ["sunnuntai", "maanantai", "tiistai", "keskiviikko", "torstai", "perjantai",
               "lauantai"]
  shortMonths := ["tammi", "helmi", "maalis", "huhti", "touko", "kesä", "heinä", "elo", "syys",
                  "loka", "marras", "joulu"]
  months := ["tammikuu", "helmikuu", "maaliskuu", "huhtikuu", "toukokuu", "kesäkuu", "heinäkuu",
             "elokuu", "syyskuu", "lokakuu", "marraskuu", "joulukuu"]

def frCA : Conventions where
  decimalPoint := ","
  dateTime := "%a %d %b %Y %T %Z"
  date := "%Y-%m-%d"
  time := "%T"
  dialTime := ""
  morning := ""
  afternoon := ""
  shortWeekdays := ["dim", "lun", "mar", "mer", "jeu", "ven", "sam"]
  weekdays := ["dimanche", "lundi", "mardi", "mercredi", "jeudi", "vendredi", "samedi"]
  shortMonths := ["jan", "fév", "mar", "avr", "mai", "jun", "jui", "aoû", "sep", "oct", "nov",
                  "déc"]
  months := ["janvier", "février", "mars", "avril", "mai", "juin", "juillet", "août", "septembre",
             "octobre", "novembre", "décembre"]

def frFR : Conventions where
  decimalPoint := ","
  dateTime := "%a %d %b %Y %T %Z"
  date := "%d/%m/%Y"
  time := "%T"
  dialTime := ""
  morning := ""
  afternoon := ""
  shortWeekdays := ["dim.", "lun.", "mar.", "mer.", "jeu.", "ven.", "sam."]
  weekdays := ["dimanche", "lundi", "mardi", "mercredi", "jeudi", "vendredi", "samedi"]
  shortMonths := ["janv.", "févr.", "mars", "avril", "mai", "juin", "juil.", "août", "sept.",
                  "oct.", "nov.", "déc."]
  months := ["janvier", "février", "mars", "avril", "mai", "juin", "juillet", "août", "septembre",
             "octobre", "novembre", "décembre"]

def heIL : Conventions where
  decimalPoint := "."
  dateTime := "%Z %H:%M:%S %Y %b %d %a"
  date := "%d/%m/%y"
  time := "%H:%M:%S"
  dialTime := "%I:%M:%S %P"
  morning := "AM"
  afternoon := "PM"
  shortWeekdays := ["א'", "ב'", "ג'", "ד'", "ה'", "ו'", "ש'"]
  weekdays := ["ראשון", "שני", "שלישי", "רביעי", "חמישי", "שישי", "שבת"]
  shortMonths := ["ינו", "פבר", "מרץ", "אפר", "מאי", "יונ", "יול", "אוג", "ספט", "אוק", "נוב",
                  "דצמ"]
  months := ["ינואר", "פברואר", "מרץ", "אפריל", "מאי", "יוני", "יולי", "אוגוסט", "ספטמבר",
             "אוקטובר", "נובמבר", "דצמבר"]

def hiIN : Conventions where
  decimalPoint := "."
  dateTime := "%A %d %b %Y %I:%M:%S %p %Z"
  date := "%-d/%-m/%y"
  time := "%I:%M:%S %p %Z"
  dialTime := "%I:%M:%S %p %Z"
  morning := "पूर्वाह्न"
  afternoon := "अपराह्न"
  shortWeekdays := ["रवि", "सोम", "मंगल", "बुध", "गुरु", "शुक्र", "शनि"]
  weekdays := ["रविवार", "सोमवार", "मंगलवार", "बुधवार", "गुरुवार", "शुक्रवार", "शनिवार"]
  shortMonths := ["जन॰", "फ़र॰", "मार्च", "अप्रैल", "मई", "जून", "जुल॰", "अग॰", "सित॰", "अक्तू॰",
                  "नव॰", "दिस॰"]
  months := ["जनवरी", "फ़रवरी", "मार्च", "अप्रैल", "मई", "जून", "जुलाई", "अगस्त", "सितंबर",
             "अक्तूबर", "नवंबर", "दिसंबर"]

def huHU : Conventions where
  decimalPoint := ","
  dateTime := "%Y. %b. %-e., %A, %H:%M:%S %Z"
  date := "%Y-%m-%d"
  time := "%H:%M:%S"
  dialTime := "%H:%M:%S"
  morning := ""
  afternoon := ""
  shortWeekdays := ["v", "h", "k", "sze", "cs", "p", "szo"]
  weekdays := ["vasárnap", "hétfő", "kedd", "szerda", "csütörtök", "péntek", "szombat"]
  shortMonths := ["jan", "febr", "márc", "ápr", "máj", "jún", "júl", "aug", "szept", "okt", "nov",
                  "dec"]
  months := ["január", "február", "március", "április", "május", "június", "július", "augusztus",
             "szeptember", "október", "november", "december"]

def itIT : Conventions where
  decimalPoint := ","
  dateTime := "%a %-d %b %Y, %T"
  date := "%d/%m/%Y"
  time := "%T"
  dialTime := ""
  morning := ""
  afternoon := ""
  shortWeekdays := ["dom", "lun", "mar", "mer", "gio", "ven", "sab"]
  weekdays := ["domenica", "lunedì", "martedì", "mercoledì", "giovedì", "venerdì", "sabato"]
  shortMonths := ["gen", "feb", "mar", "apr", "mag", "giu", "lug", "ago", "set", "ott", "nov",
                  "dic"]
  months := ["gennaio", "febbraio", "marzo", "aprile", "maggio", "giugno", "luglio", "agosto",
             "settembre", "ottobre", "novembre", "dicembre"]

def jaJP : Conventions where
  decimalPoint := "."
  dateTime := "%Y年%m月%d日 %H時%M分%S秒"
  date := "%Y年%m月%d日"
  time := "%H時%M分%S秒"
  dialTime := "%p%I時%M分%S秒"
  morning := "午前"
  afternoon := "午後"
  shortWeekdays := ["日", "月", "火", "水", "木", "金", "土"]
  weekdays := ["日曜日", "月曜日", "火曜日", "水曜日", "木曜日", "金曜日", "土曜日"]
  shortMonths := [" 1月", " 2月", " 3月", " 4月", " 5月", " 6月", " 7月", " 8月", " 9月", "10月", "11月",
                  "12月"]
  months := ["1月", "2月", "3月", "4月", "5月", "6月", "7月", "8月", "9月", "10月", "11月", "12月"]

def koKR : Conventions where
  decimalPoint := "."
  dateTime := "%x (%a) %r"
  date := "%Y년 %m월 %d일"
  time := "%H시 %M분 %S초"
  dialTime := "%p %I시 %M분 %S초"
  morning := "오전"
  afternoon := "오후"
  shortWeekdays := ["일", "월", "화", "수", "목", "금", "토"]
  weekdays := ["일요일", "월요일", "화요일", "수요일", "목요일", "금요일", "토요일"]
  shortMonths := [" 1월", " 2월", " 3월", " 4월", " 5월", " 6월", " 7월", " 8월", " 9월", "10월", "11월",
                  "12월"]
  months := ["1월", "2월", "3월", "4월", "5월", "6월", "7월", "8월", "9월", "10월", "11월", "12월"]

def loLA : Conventions where
  decimalPoint := "."
  dateTime := "%a %e %b %Ey, %H:%M:%S"
  date := "%d/%m/%Ey"
  time := "%H:%M:%S"
  dialTime := "%I:%M:%S %p"
  morning := "AM"
  afternoon := "PM"
  shortWeekdays := ["ອາ.", "ຈ.", "ຄ.", "ພ.", "ພຫ.", "ສ.", "ສ."]
  weekdays := ["ອາທິດ", "ຈັນ", "ອັງຄານ", "ພຸດ", "ພະຫັດ", "ສຸກ", "ເສົາ"]
  shortMonths := ["ມ.ກ.", "ກ.ພ.", "ມ.ນ.", "ມ.ສ.", "ພ.ພ.", "ມິ.ຖ.", "ກ.ລ.", "ສ.ຫ.", "ກ.ຍ.", "ຕ.ລ.",
                  "ພ.ຈ.", "ທ.ວ."]
  months := ["ມັງກອນ", "ກຸມພາ", "ມີນາ", "ເມສາ", "ພຶດສະພາ", "ມິຖຸນາ", "ກໍລະກົດ", "ສິງຫາ", "ກັນຍາ",
             "ຕຸລາ", "ພະຈິກ", "ທັນວາ"]

def lzhTW : Conventions where
  decimalPoint := "."
  dateTime := "%OC%Oy年%B%Od日 (%A) %OH時%OM分%OS秒"
  date := "%OC%Oy年%B%Od日"
  time := "%OH時%OM分%OS秒"
  dialTime := "%p %OI時%OM分%OS秒"
  morning := "朝"
  afternoon := "暮"
  shortWeekdays := ["日", "一", "二", "三", "四", "五", "六"]
  weekdays := ["週日", "週一", "週二", "週三", "週四", "週五", "週六"]
  shortMonths := [" 一 ", " 二 ", " 三 ", " 四 ", " 五 ", " 六 ", " 七 ", " 八 ", " 九 ", " 十 ", "十一",
                  "十二"]
  months := ["一月", "二月", "三月", "四月", "五月", "六月", "七月", "八月", "九月", "十月", "十一月", "十二月"]

def myMM : Conventions where
  decimalPoint := "."
  dateTime := "%OC%Oy %b %Od %A %OI:%OM:%OS %Op %Z"
  date := "%OC%Oy %b %Od %A"
  time := "%OI:%OM:%OS %p"
  dialTime := "%OI:%OM:%OS %p"
  morning := "နံနက်"
  afternoon := "ညနေ"
  shortWeekdays := ["နွေ", "လာ", "ဂါ", "ဟူး", "တေး", "သော", "နေ"]
  weekdays := ["တနင်္ဂနွေ", "တနင်္လာ", "အင်္ဂါ", "ဗုဒ္ဓဟူး", "ကြာသပတေး", "သောကြာ", "စနေ"]
  shortMonths := ["ဇန်", "ဖေ", "မတ်", "ဧပြီ", "မေ", "ဇွန်", "ဇူ", "ဩ", "စက်", "အောက်", "နို",
                  "ဒီ"]
  months := ["ဇန်နဝါရီ", "ဖေဖော်ဝါရီ", "မတ်", "ဧပြီ", "မေ", "ဇွန်", "ဇူလိုင်", "ဩဂုတ်",
             "စက်တင်ဘာ", "အောက်တိုဘာ", "နိုဝင်ဘာ", "ဒီဇင်ဘာ"]

def nbNO : Conventions where
  decimalPoint := ","
  dateTime := "%a %d. %b %Y kl. %H.%M %z"
  date := "%d. %b %Y"
  time := "kl. %H.%M %z"
  dialTime := ""
  morning := ""
  afternoon := ""
  shortWeekdays := ["sø.", "ma.", "ti.", "on.", "to.", "fr.", "lø."]
  weekdays := ["søndag", "mandag", "tirsdag", "onsdag", "torsdag", "fredag", "lørdag"]
  shortMonths := ["jan.", "feb.", "mars", "april", "mai", "juni", "juli", "aug.", "sep.", "okt.",
                  "nov.", "des."]
  months := ["januar", "februar", "mars", "april", "mai", "juni", "juli", "august", "september",
             "oktober", "november", "desember"]

def nlNL : Conventions where
  decimalPoint := ","
  dateTime := "%a %d %b %Y %T %Z"
  date := "%d-%m-%y"
  time := "%T"
  dialTime := ""
  morning := ""
  afternoon := ""
  shortWeekdays := ["zo", "ma", "di", "wo", "do", "vr", "za"]
  weekdays := ["zondag", "maandag", "dinsdag", "woensdag", "donderdag", "vrijdag", "zaterdag"]
  shortMonths := ["jan", "feb", "mrt", "apr", "mei", "jun", "jul", "aug", "sep", "okt", "nov",
                  "dec"]
  months := ["januari", "februari", "maart", "april", "mei", "juni", "juli", "augustus",
             "september", "oktober", "november", "december"]

def orIN : Conventions where
  decimalPoint := "."
  dateTime := "%Oe %B %Oy %OI:%OM:%OS %p %Z"
  date := "%Od-%Om-%Oy"
  time := "%OI:%OM:%OS %p"
  dialTime := "%OI:%OM:%OS %p"
  morning := "AM"
  afternoon := "PM"
  shortWeekdays := ["ରବି", "ସୋମ", "ମଙ୍ଗଳ", "ବୁଧ", "ଗୁରୁ", "ଶୁକ୍ର", "ଶନି"]
  weekdays := ["ରବିବାର", "ସୋମବାର", "ମଙ୍ଗଳବାର", "ବୁଧବାର", "ଗୁରୁବାର", "ଶୁକ୍ରବାର", "ଶନିବାର"]
  shortMonths := ["ଜାନୁଆରୀ", "ଫେବୃଆରୀ", "ମାର୍ଚ୍ଚ", "ଅପ୍ରେଲ", "ମଇ", "ଜୁନ", "ଜୁଲାଇ", "ଅଗଷ୍ଟ",
                  "ସେପ୍ଟେମ୍ବର", "ଅକ୍ଟୋବର", "ନଭେମ୍ବର", "ଡିସେମ୍ବର"]
  months := ["ଜାନୁଆରୀ", "ଫେବୃଆରୀ", "ମାର୍ଚ୍ଚ", "ଅପ୍ରେଲ", "ମଇ", "ଜୁନ", "ଜୁଲାଇ", "ଅଗଷ୍ଟ",
             "ସେପ୍ଟେମ୍ବର", "ଅକ୍ଟୋବର", "ନଭେମ୍ବର", "ଡିସେମ୍ବର"]

def plPL : Conventions where
  decimalPoint := ","
  dateTime := "%a, %-d %b %Y, %T"
  date := "%d.%m.%Y"
  time := "%T"
  dialTime := ""
  morning := ""
  afternoon := ""
  shortWeekdays := ["nie", "pon", "wto", "śro", "czw", "pią", "sob"]
  weekdays := ["niedziela", "poniedziałek", "wtorek", "środa", "czwartek", "piątek", "sobota"]
  shortMonths := ["sty", "lut", "mar", "kwi", "maj", "cze", "lip", "sie", "wrz", "paź", "lis",
                  "gru"]
  months := ["stycznia", "lutego", "marca", "kwietnia", "maja", "czerwca", "lipca", "sierpnia",
             "września", "października", "listopada", "grudnia"]

def psAF : Conventions where
  decimalPoint := "٫"
  dateTime := "%A د %Y د %B %e، %Z %H:%M:%S"
  date := "د %Y د %B %e"
  time := "%H:%M:%S"
  dialTime := "‫%I:%M:%S %p‬"
  morning := "غ.م."
  afternoon := "غ.و."
  shortWeekdays := ["ی.", "د.", "س.", "چ.", "پ.", "ج.", "ش."]
  weekdays := ["یکشنبه", "دوشنبه", "سه‌شنبه", "چارشنبه", "پنجشنبه", "جمعه", "شنبه"]
  shortMonths := ["جنوري", "فبروري", "مارچ", "اپریل", "مۍ", "جون", "جولای", "اګست", "سپتمبر",
                  "اکتوبر", "نومبر", "دسمبر"]
  months := ["جنوري", "فبروري", "مارچ", "اپریل", "مۍ", "جون", "جولای", "اګست", "سپتمبر", "اکتوبر",
             "نومبر", "دسمبر"]

def ptBR : Conventions where
  decimalPoint := ","
  dateTime := "%a %d %b %Y %T %Z"
  date := "%d/%m/%Y"
  time := "%T"
  dialTime := ""
  morning := ""
  afternoon := ""
  shortWeekdays := ["dom", "seg", "ter", "qua", "qui", "sex", "sáb"]
  weekdays := ["domingo", "segunda", "terça", "quarta", "quinta", "sexta", "sábado"]
  shortMonths := ["jan", "fev", "mar", "abr", "mai", "jun", "jul", "ago", "set", "out", "nov",
                  "dez"]
  months := ["janeiro", "fevereiro", "março", "abril", "maio", "junho", "julho", "agosto",
             "setembro", "outubro", "novembro", "dezembro"]

def ptPT : Conventions where
  decimalPoint := ","
  dateTime := "%a %d %b %Y %T %Z"
  date := "%d/%m/%Y"
  time := "%T"
  dialTime := ""
  morning := ""
  afternoon := ""
  shortWeekdays := ["dom", "seg", "ter", "qua", "qui", "sex", "sáb"]
  weekdays := ["domingo", "segunda", "terça", "quarta", "quinta", "sexta", "sábado"]
  shortMonths := ["jan", "fev", "mar", "abr", "mai", "jun", "jul", "ago", "set", "out", "nov",
                  "dez"]
  months := ["janeiro", "fevereiro", "março", "abril", "maio", "junho", "julho", "agosto",
             "setembro", "outubro", "novembro", "dezembro"]

def ruRU : Conventions where
  decimalPoint := ","
  dateTime := "%a %d %b %Y %T"
  date := "%d.%m.%Y"
  time := "%T"
  dialTime := ""
  morning := ""
  afternoon := ""
  shortWeekdays := ["Вс", "Пн", "Вт", "Ср", "Чт", "Пт", "Сб"]
  weekdays := ["Воскресенье", "Понедельник", "Вторник", "Среда", "Четверг", "Пятница", "Суббота"]
  shortMonths := ["янв", "фев", "мар", "апр", "мая", "июн", "июл", "авг", "сен", "окт", "ноя",
                  "дек"]
  months := ["января", "февраля", "марта", "апреля", "мая", "июня", "июля", "августа", "сентября",
             "октября", "ноября", "декабря"]

def srRS : Conventions where
  decimalPoint := ","
  dateTime := "%A, %d. %B %Y. %T %Z"
  date := "%d.%m.%Y."
  time := "%T"
  dialTime := "%T"
  morning := ""
  afternoon := ""
  shortWeekdays := ["нед", "пон", "уто", "сре", "чет", "пет", "суб"]
  weekdays := ["недеља", "понедељак", "уторак", "среда", "четвртак", "петак", "субота"]
  shortMonths := ["јан", "феб", "мар", "апр", "мај", "јун", "јул", "авг", "сеп", "окт", "нов",
                  "дец"]
  months := ["јануар", "фебруар", "март", "април", "мај", "јун", "јул", "август", "септембар",
             "октобар", "новембар", "децембар"]

def srRSLatin : Conventions where
  decimalPoint := ","
  dateTime := "%A, %d. %B %Y. %T %Z"
  date := "%d.%m.%Y."
  time := "%T"
  dialTime := "%T"
  morning := ""
  afternoon := ""
  shortWeekdays := ["ned", "pon", "uto", "sre", "čet", "pet", "sub"]
  weekdays := ["nedelja", "ponedeljak", "utorak", "sreda", "četvrtak", "petak", "subota"]
  shortMonths := ["jan", "feb", "mar", "apr", "maj", "jun", "jul", "avg", "sep", "okt", "nov",
                  "dec"]
  months := ["januar", "februar", "mart", "april", "maj", "jun", "jul", "avgust", "septembar",
             "oktobar", "novembar", "decembar"]

def svSE : Conventions where
  decimalPoint := ","
  dateTime := "%a %e %b %Y %H:%M:%S"
  date := "%Y-%m-%d"
  time := "%H:%M:%S"
  dialTime := ""
  morning := ""
  afternoon := ""
  shortWeekdays := ["sön", "mån", "tis", "ons", "tor", "fre", "lör"]
  weekdays := ["söndag", "måndag", "tisdag", "onsdag", "torsdag", "fredag", "lördag"]
  shortMonths := ["jan", "feb", "mar", "apr", "maj", "jun", "jul", "aug", "sep", "okt", "nov",
                  "dec"]
  months := ["januari", "februari", "mars", "april", "maj", "juni", "juli", "augusti",
             "september", "oktober", "november", "december"]

def thTH : Conventions where
  decimalPoint := "."
  dateTime := "%a %e %b %Ey, %H:%M:%S"
  date := "%d/%m/%Ey"
  time := "%H:%M:%S"
  dialTime := "%I:%M:%S %p"
  morning := "AM"
  afternoon := "PM"
  shortWeekdays := ["อา.", "จ.", "อ.", "พ.", "พฤ.", "ศ.", "ส."]
  weekdays := ["อาทิตย์", "จันทร์", "อังคาร", "พุธ", "พฤหัสบดี", "ศุกร์", "เสาร์"]
  shortMonths := ["ม.ค.", "ก.พ.", "มี.ค.", "เม.ย.", "พ.ค.", "มิ.ย.", "ก.ค.", "ส.ค.", "ก.ย.",
                  "ต.ค.", "พ.ย.", "ธ.ค."]
  months := ["มกราคม", "กุมภาพันธ์", "มีนาคม", "เมษายน", "พฤษภาคม", "มิถุนายน", "กรกฎาคม",
             "สิงหาคม", "กันยายน", "ตุลาคม", "พฤศจิกายน", "ธันวาคม"]

def trTR : Conventions where
  decimalPoint := ","
  dateTime := "%a %d %b %Y %T %Z"
  date := "%d-%m-%Y"
  time := "%T"
  dialTime := "%I:%M:%S %p"
  morning := "ÖÖ"
  afternoon := "ÖS"
  shortWeekdays := ["Paz", "Pzt", "Sal", "Çrş", "Prş", "Cum", "Cts"]
  weekdays := ["Pazar", "Pazartesi", "Salı", "Çarşamba", "Perşembe", "Cuma", "Cumartesi"]
  shortMonths := ["Oca", "Şub", "Mar", "Nis", "May", "Haz", "Tem", "Ağu", "Eyl", "Eki", "Kas",
                  "Ara"]
  months := ["Ocak", "Şubat", "Mart", "Nisan", "Mayıs", "Haziran", "Temmuz", "Ağustos", "Eylül",
             "Ekim", "Kasım", "Aralık"]

def ukUA : Conventions where
  decimalPoint := ","
  dateTime := "%a, %d-%b-%Y %T %z"
  date := "%d.%m.%y"
  time := "%T"
  dialTime := ""
  morning := ""
  afternoon := ""
  shortWeekdays := ["нд", "пн", "вт", "ср", "чт", "пт", "сб"]
  weekdays := ["неділя", "понеділок", "вівторок", "середа", "четвер", "п'ятниця", "субота"]
  shortMonths := ["січ", "лют", "бер", "кві", "тра", "чер", "лип", "сер", "вер", "жов", "лис",
                  "гру"]
  months := ["січня", "лютого", "березня", "квітня", "травня", "червня", "липня", "серпня",
             "вересня", "жовтня", "листопада", "грудня"]

def viVN : Conventions where
  decimalPoint := ","
  dateTime := "%A, %d %B Năm %Y %T %Z"
  date := "%d/%m/%Y"
  time := "%T"
  dialTime := "%I:%M %p"
  morning := "AM"
  afternoon := "PM"
  shortWeekdays := ["CN", "T2", "T3", "T4", "T5", "T6", "T7"]
  weekdays := ["Chủ nhật", "Thứ hai", "Thứ ba", "Thứ tư", "Thứ năm", "Thứ sáu", "Thứ bảy"]
  shortMonths := ["Thg 1", "Thg 2", "Thg 3", "Thg 4", "Thg 5", "Thg 6", "Thg 7", "Thg 8", "Thg 9",
                  "Thg 10", "Thg 11", "Thg 12"]
  months := ["Tháng 1", "Tháng 2", "Tháng 3", "Tháng 4", "Tháng 5", "Tháng 6", "Tháng 7",
             "Tháng 8", "Tháng 9", "Tháng 10", "Tháng 11", "Tháng 12"]

def zhCN : Conventions where
  decimalPoint := "."
  dateTime := "%Y年%m月%d日 %A %H时%M分%S秒"
  date := "%Y年%m月%d日"
  time := "%H时%M分%S秒"
  dialTime := "%p %I时%M分%S秒"
  morning := "上午"
  afternoon := "下午"
  shortWeekdays := ["日", "一", "二", "三", "四", "五", "六"]
  weekdays := ["星期日", "星期一", "星期二", "星期三", "星期四", "星期五", "星期六"]
  shortMonths := ["1月", "2月", "3月", "4月", "5月", "6月", "7月", "8月", "9月", "10月", "11月", "12月"]
  months := ["一月", "二月", "三月", "四月", "五月", "六月", "七月", "八月", "九月", "十月", "十一月", "十二月"]

def zhTW : Conventions where
  decimalPoint := "."
  dateTime := "西元%Y年%m月%d日 (%A) %H時%M分%S秒"
  date := "西元%Y年%m月%d日"
  time := "%H時%M分%S秒"
  dialTime := "%p %I時%M分%S秒"
  morning := "上午"
  afternoon := "下午"
  shortWeekdays := ["日", "一", "二", "三", "四", "五", "六"]
  weekdays := ["週日", "週一", "週二", "週三", "週四", "週五", "週六"]
  shortMonths := [" 1月", " 2月", " 3月", " 4月", " 5月", " 6月", " 7月", " 8月", " 9月", "10月", "11月",
                  "12月"]
  months := ["一月", "二月", "三月", "四月", "五月", "六月", "七月", "八月", "九月", "十月", "十一月", "十二月"]

def rows : List (String × Conventions) :=
  [("aa_ER@saaho", aaERSaaho), ("ar_SA", arSA), ("az_IR", azIR), ("bg_BG", bgBG), ("ca_ES", caES),
   ("cs_CZ", csCZ), ("da_DK", daDK), ("de_AT", deAT), ("de_CH", deCH), ("de_DE", deDE),
   ("el_GR", elGR), ("en_AU", enAU), ("en_GB", enGB), ("en_US", enUS), ("eo", eo),
   ("es_ES", esES), ("es_MX", esMX), ("et_EE", etEE), ("eu_ES", euES), ("fa_IR", faIR),
   ("fi_FI", fiFI), ("fr_CA", frCA), ("fr_FR", frFR), ("he_IL", heIL), ("hi_IN", hiIN),
   ("hu_HU", huHU), ("it_IT", itIT), ("ja_JP", jaJP), ("ko_KR", koKR), ("lo_LA", loLA),
   ("lzh_TW", lzhTW), ("my_MM", myMM), ("nb_NO", nbNO), ("nl_NL", nlNL), ("or_IN", orIN),
   ("pl_PL", plPL), ("ps_AF", psAF), ("pt_BR", ptBR), ("pt_PT", ptPT), ("ru_RU", ruRU),
   ("sr_RS", srRS), ("sr_RS@latin", srRSLatin), ("sv_SE", svSE), ("th_TH", thTH), ("tr_TR", trTR),
   ("uk_UA", ukUA), ("vi_VN", viVN), ("zh_CN", zhCN), ("zh_TW", zhTW)]

end Conventions

/-- The conventions of a locale in the sample table. A locale without a row there is given the
neutral conventions, which need not be its own. -/
def sample (l : Locale) : Conventions := (Conventions.rows.lookup l.name).getD .neutral

end LocaleClock.Locale
