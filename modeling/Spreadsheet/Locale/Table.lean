import Spreadsheet.Locale.Basic

/-! The locales that are known. -/
namespace Spreadsheet.Locale

/-- English (United States). -/
def enUs : Locale :=
  { code := "0409", tag := "en-US", name := "English (United States)"
    decimal := ".", thousands := ",", currency := "$"
    monthsFull := ["January", "February", "March", "April", "May", "June", "July", "August", "September", "October",
       "November", "December"]
    monthsShort := ["Jan", "Feb", "Mar", "Apr", "May", "Jun", "Jul", "Aug", "Sep", "Oct", "Nov", "Dec"]
    daysFull := ["Sunday", "Monday", "Tuesday", "Wednesday", "Thursday", "Friday", "Saturday"]
    daysShort := ["Sun", "Mon", "Tue", "Wed", "Thu", "Fri", "Sat"]
    am := "AM", pm := "PM", dateOrder := .monthFirst }

/-- English (United Kingdom). -/
def enGb : Locale :=
  { code := "0809", tag := "en-GB", name := "English (United Kingdom)"
    decimal := ".", thousands := ",", currency := "£"
    monthsFull := ["January", "February", "March", "April", "May", "June", "July", "August", "September", "October",
       "November", "December"]
    monthsShort := ["Jan", "Feb", "Mar", "Apr", "May", "Jun", "Jul", "Aug", "Sep", "Oct", "Nov", "Dec"]
    daysFull := ["Sunday", "Monday", "Tuesday", "Wednesday", "Thursday", "Friday", "Saturday"]
    daysShort := ["Sun", "Mon", "Tue", "Wed", "Thu", "Fri", "Sat"]
    am := "AM", pm := "PM", dateOrder := .dayFirst }

/-- German (Germany). -/
def deDe : Locale :=
  { code := "0407", tag := "de-DE", name := "German (Germany)"
    decimal := ",", thousands := ".", currency := "€"
    monthsFull := ["Januar", "Februar", "März", "April", "Mai", "Juni", "Juli", "August", "September", "Oktober",
       "November", "Dezember"]
    monthsShort := ["Jan", "Feb", "Mär", "Apr", "Mai", "Jun", "Jul", "Aug", "Sep", "Okt", "Nov", "Dez"]
    daysFull := ["Sonntag", "Montag", "Dienstag", "Mittwoch", "Donnerstag", "Freitag", "Samstag"]
    daysShort := ["So", "Mo", "Di", "Mi", "Do", "Fr", "Sa"]
    am := "AM", pm := "PM", dateOrder := .dayFirst }

/-- French (France). -/
def frFr : Locale :=
  { code := "040C", tag := "fr-FR", name := "French (France)"
    decimal := ",", thousands := "\u00a0", currency := "€"
    monthsFull := ["janvier", "février", "mars", "avril", "mai", "juin", "juillet", "août", "septembre", "octobre",
       "novembre", "décembre"]
    monthsShort := ["janv.", "févr.", "mars", "avr.", "mai", "juin", "juil.", "août", "sept.", "oct.", "nov.", "déc."]
    daysFull := ["dimanche", "lundi", "mardi", "mercredi", "jeudi", "vendredi", "samedi"]
    daysShort := ["dim.", "lun.", "mar.", "mer.", "jeu.", "ven.", "sam."]
    am := "AM", pm := "PM", dateOrder := .dayFirst }

/-- Spanish (Spain). -/
def esEs : Locale :=
  { code := "0C0A", tag := "es-ES", name := "Spanish (Spain)"
    decimal := ",", thousands := ".", currency := "€"
    monthsFull := ["enero", "febrero", "marzo", "abril", "mayo", "junio", "julio", "agosto", "septiembre", "octubre",
       "noviembre", "diciembre"]
    monthsShort := ["ene", "feb", "mar", "abr", "may", "jun", "jul", "ago", "sep", "oct", "nov", "dic"]
    daysFull := ["domingo", "lunes", "martes", "miércoles", "jueves", "viernes", "sábado"]
    daysShort := ["dom", "lun", "mar", "mié", "jue", "vie", "sáb"]
    am := "a. m.", pm := "p. m.", dateOrder := .dayFirst }

/-- Italian (Italy). -/
def itIt : Locale :=
  { code := "0410", tag := "it-IT", name := "Italian (Italy)"
    decimal := ",", thousands := ".", currency := "€"
    monthsFull := ["gennaio", "febbraio", "marzo", "aprile", "maggio", "giugno", "luglio", "agosto", "settembre",
       "ottobre", "novembre", "dicembre"]
    monthsShort := ["gen", "feb", "mar", "apr", "mag", "giu", "lug", "ago", "set", "ott", "nov", "dic"]
    daysFull := ["domenica", "lunedì", "martedì", "mercoledì", "giovedì", "venerdì", "sabato"]
    daysShort := ["dom", "lun", "mar", "mer", "gio", "ven", "sab"]
    am := "AM", pm := "PM", dateOrder := .dayFirst }

/-- Portuguese (Brazil). -/
def ptBr : Locale :=
  { code := "0416", tag := "pt-BR", name := "Portuguese (Brazil)"
    decimal := ",", thousands := ".", currency := "R$"
    monthsFull := ["janeiro", "fevereiro", "março", "abril", "maio", "junho", "julho", "agosto", "setembro", "outubro",
       "novembro", "dezembro"]
    monthsShort := ["jan", "fev", "mar", "abr", "mai", "jun", "jul", "ago", "set", "out", "nov", "dez"]
    daysFull := ["domingo", "segunda-feira", "terça-feira", "quarta-feira", "quinta-feira", "sexta-feira", "sábado"]
    daysShort := ["dom", "seg", "ter", "qua", "qui", "sex", "sáb"]
    am := "AM", pm := "PM", dateOrder := .dayFirst }

/-- Dutch (Netherlands). -/
def nlNl : Locale :=
  { code := "0413", tag := "nl-NL", name := "Dutch (Netherlands)"
    decimal := ",", thousands := ".", currency := "€"
    monthsFull := ["januari", "februari", "maart", "april", "mei", "juni", "juli", "augustus", "september", "oktober",
       "november", "december"]
    monthsShort := ["jan", "feb", "mrt", "apr", "mei", "jun", "jul", "aug", "sep", "okt", "nov", "dec"]
    daysFull := ["zondag", "maandag", "dinsdag", "woensdag", "donderdag", "vrijdag", "zaterdag"]
    daysShort := ["zo", "ma", "di", "wo", "do", "vr", "za"]
    am := "a.m.", pm := "p.m.", dateOrder := .dayFirst }

/-- Japanese (Japan). -/
def jaJp : Locale :=
  { code := "0411", tag := "ja-JP", name := "Japanese (Japan)"
    decimal := ".", thousands := ",", currency := "¥"
    monthsFull := ["1月", "2月", "3月", "4月", "5月", "6月", "7月", "8月", "9月", "10月", "11月", "12月"]
    monthsShort := ["1月", "2月", "3月", "4月", "5月", "6月", "7月", "8月", "9月", "10月", "11月", "12月"]
    daysFull := ["日曜日", "月曜日", "火曜日", "水曜日", "木曜日", "金曜日", "土曜日"]
    daysShort := ["日", "月", "火", "水", "木", "金", "土"]
    am := "午前", pm := "午後", dateOrder := .yearFirst }

/-- All locales, United States English first. -/
def table : List Locale :=
  [enUs, enGb, deDe, frFr, esEs, itIt, ptBr, nlNl, jaJp]

end Spreadsheet.Locale
